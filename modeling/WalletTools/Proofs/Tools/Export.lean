import Mathlib.Logic.Function.Basic
import WalletTools.Proofs.Ledger.Account
import WalletTools.Proofs.Ledger.Address
import WalletTools.Tools.Export

/-! Exports. The wallets that are listed are those whose stores hold the key of an account, each once and
in increasing order; every entry gives that account back, and hangs on the store of its own wallet
only. -/
namespace WalletTools.Tools

open Ledger

/-! ## Wallets -/

/-- The first row of a store holds the record of a root key. -/
def HoldsKey (source : Except Store.Fault Store.Database) (key : RootKey) : Prop :=
  ∃ database record, source = .ok database ∧
    Store.Database.firstBlob database "RootAccount" "data" = .ok record ∧
    RootKey.decode record = .ok key

theorem rootAccount_eq_ok_iff {source : Except Store.Fault Store.Database} {account : Account} :
    rootAccount source = .ok account ↔ ∃ key, HoldsKey source key ∧ key.account = .ok account := by
  unfold rootAccount HoldsKey
  simp only [bind_eq_ok_iff, mapError_eq_ok_iff]
  constructor
  · intro success
    obtain ⟨database, opened, record, found, key, decoded, recovered⟩ := success
    exact ⟨key, ⟨database, record, opened, found, decoded⟩, recovered⟩
  · intro given
    obtain ⟨key, ⟨database, record, opened, found, decoded⟩, recovered⟩ := given
    exact ⟨database, opened, record, found, key, decoded, recovered⟩

private theorem toString_injective {left right : Nat} (same : toString left = toString right) :
    left = right := by
  have digits : Nat.toDigits 10 left = Nat.toDigits 10 right := by
    rw [← Nat.toList_repr, ← Nat.toList_repr]
    exact congrArg String.toList same
  rw [← Nat.ofDigitChars_ten_toDigits (n := left), digits, Nat.ofDigitChars_ten_toDigits]

/-- Every wallet has a path of its own. -/
theorem rootKeyPath_injective (directory : String) : Function.Injective (rootKeyPath directory) := by
  intro left right same
  unfold rootKeyPath joinPath at same
  split at same <;>
    exact toString_injective (by
      simpa only [String.append_right_inj, String.append_left_inj] using same)

/-! ## Lists -/

/-- The wallet of an index, if it has an account. -/
def wallet? (account : Nat → Except Error Account) (index : Nat) : Option ExportedWallet :=
  (account index).toOption.map (⟨index, ·⟩)

theorem wallet?_eq_some_iff {account : Nat → Except Error Account} {index : Nat}
    {wallet : ExportedWallet} : wallet? account index = some wallet ↔
      wallet.index = index ∧ account index = .ok wallet.account := by
  obtain ⟨other, found⟩ := wallet
  unfold wallet?
  cases account index with
  | error fault => simp [Except.toOption]
  | ok given => simp [Except.toOption, eq_comm]

/-- The wallets that have accounts, among so many from an index on. -/
def walletsFrom (account : Nat → Except Error Account) (count index : Nat) : List ExportedWallet :=
  (List.range' index count).filterMap (wallet? account)

theorem length_walletsFrom_le (account : Nat → Except Error Account) (count index : Nat) :
    (walletsFrom account count index).length ≤ count :=
  Nat.le_trans (List.length_filterMap_le ..) (Nat.le_of_eq List.length_range')

theorem mem_walletsFrom_iff {account : Nat → Except Error Account} {count index : Nat}
    {wallet : ExportedWallet} : wallet ∈ walletsFrom account count index ↔
      (index ≤ wallet.index ∧ wallet.index < index + count) ∧
        account wallet.index = .ok wallet.account := by
  unfold walletsFrom
  rw [List.mem_filterMap]
  simp only [wallet?_eq_some_iff, List.mem_range'_1]
  constructor
  · intro given
    obtain ⟨_, listed, rfl, found⟩ := given
    exact ⟨listed, found⟩
  · intro given
    exact ⟨_, given.1, rfl, given.2⟩

/-- The indices of the wallets are some of those looked at, in their order. -/
theorem indices_walletsFrom (account : Nat → Except Error Account) (count index : Nat) :
    ((walletsFrom account count index).map (·.index)).Sublist (List.range' index count) := by
  unfold walletsFrom
  induction List.range' index count with
  | nil => exact List.Sublist.slnil
  | cons index rest ih =>
    rw [List.filterMap_cons]
    split
    · exact ih.cons index
    · rename_i found
      rw [List.map_cons, (wallet?_eq_some_iff.mp found).1]
      exact ih.cons_cons index

theorem walletsFrom_increasing (account : Nat → Except Error Account) (count index : Nat) :
    (walletsFrom account count index).Pairwise fun left right => left.index < right.index :=
  List.pairwise_map.mp (List.Pairwise.sublist (indices_walletsFrom account count index)
    List.pairwise_lt_range')

theorem walletsFrom_succ (account : Nat → Except Error Account) (count index : Nat) :
    walletsFrom account (count + 1) index =
      (wallet? account index).toList ++ walletsFrom account count (index + 1) := by
  unfold walletsFrom
  rw [List.range'_succ, List.filterMap_cons]
  cases wallet? account index <;> rfl

/-- The wallets but one hang on their own accounts only. -/
theorem filter_walletsFrom_congr {account changed : Nat → Except Error Account} {other : Nat}
    (same : ∀ index ≠ other, changed index = account index) (count index : Nat) :
    (walletsFrom changed count index).filter (·.index ≠ other) =
      (walletsFrom account count index).filter (·.index ≠ other) := by
  unfold walletsFrom
  rw [List.filter_filterMap, List.filter_filterMap]
  refine List.filterMap_congr fun index _ => ?_
  by_cases named : index = other
  · have left (account : Nat → Except Error Account) :
        (wallet? account index).filter (·.index ≠ other) = none := by
      refine Option.filter_eq_none_iff.mpr fun wallet found => ?_
      simp [(wallet?_eq_some_iff.mp found).1, named]
    rw [left, left]
  · rw [wallet?, wallet?, same index named]

/-! ## The list as it is written -/

/-- What an export writes for some wallets. -/
def entries (wallets : List ExportedWallet) : Bytes :=
  wallets.flatMap fun wallet => Text.Utf8.encode wallet.text

private theorem run_bind {command : Command Id α} {next : α → Command Id β} {output middle : Output}
    {value : α} (done : (ExceptT.run command).run output = (.ok value, middle)) :
    (ExceptT.run (command >>= next)).run output = (ExceptT.run (next value)).run middle := by
  rw [ExceptT.run_bind, StateT.run_bind, done]
  rfl

/-- Where the output has no limit, all of a text is written. -/
private theorem run_write (text : String) (written : Bytes) :
    (ExceptT.run (write text : Command Id Unit)).run ⟨none, written⟩ =
      (.ok (), ⟨none, written ++ Text.Utf8.encode text⟩) := rfl

/-- Wallets that have accounts are listed, and the others are counted. -/
theorem run_exportFrom (account : Nat → Except Error Account) (count index : Nat) (written : Bytes) :
    (ExceptT.run (exportFrom account count index)).run ⟨none, written⟩ =
      (.ok (walletsFrom account count index, count - (walletsFrom account count index).length),
        ⟨none, written ++ entries (walletsFrom account count index)⟩) := by
  induction count generalizing index written with
  | zero => exact congrArg (fun bytes => (_, Output.mk none bytes)) (List.append_nil written).symm
  | succ count ih =>
    have few := length_walletsFrom_le account count (index + 1)
    rw [exportFrom, walletsFrom_succ, wallet?]
    cases account index with
    | error fault =>
      dsimp only
      rw [run_bind (ih (index + 1) written)]
      have counted : count - (walletsFrom account count (index + 1)).length + 1 =
          count + 1 - (walletsFrom account count (index + 1)).length := by omega
      exact congrArg (fun failed => (Except.ok (_, failed), _)) counted
    | ok found =>
      dsimp only
      rw [run_bind (run_write _ written), run_bind (ih (index + 1) _)]
      simp [entries, Except.toOption]
      rfl

section Exported

variable (read : String → Except Store.Fault Store.Database) (directory : String) (count : Nat)

/-- The wallets of a directory, below a number, that have accounts. -/
def walletsIn : List ExportedWallet :=
  walletsFrom (fun index => rootAccount (read (rootKeyPath directory index))) count 0

variable {read directory count}

theorem mem_walletsIn_iff {wallet : ExportedWallet} : wallet ∈ walletsIn read directory count ↔
    wallet.index < count ∧ ∃ key, HoldsKey (read (rootKeyPath directory wallet.index)) key ∧
      key.account = .ok wallet.account := by
  rw [walletsIn, mem_walletsFrom_iff, Nat.zero_add, and_iff_right (Nat.zero_le _), rootAccount_eq_ok_iff]

/-- No wallet is missing where there are as many as are looked at. -/
theorem none_missing_iff : 0 < count - (walletsIn read directory count).length ↔
    (walletsIn read directory count).map (·.index) ≠ List.range count := by
  have some : ((walletsIn read directory count).map (·.index)).Sublist (List.range count) := by
    rw [List.range_eq_range']
    exact indices_walletsFrom ..
  have few : (walletsIn read directory count).length ≤ count := length_walletsFrom_le ..
  constructor
  · intro missing all
    have sized := congrArg List.length all
    rw [List.length_map, List.length_range] at sized
    omega
  · intro different
    by_contra full
    refine different (some.eq_of_length ?_)
    rw [List.length_map, List.length_range]
    exact Nat.le_antisymm few (by omega)

/-- What an export comes to and writes. -/
theorem start_exportWallets : Command.start (exportWallets read directory count) none =
    (if (walletsIn read directory count).map (·.index) = List.range count then
        .ok (walletsIn read directory count)
      else .error (.incomplete (count - (walletsIn read directory count).length) count),
      entries (walletsIn read directory count)) := by
  have listed : (ExceptT.run (exportFrom (fun index => rootAccount (read (rootKeyPath directory index)))
      count 0)).run (.empty none) = (.ok (walletsIn read directory count,
        count - (walletsIn read directory count).length), ⟨none, entries (walletsIn read directory count)⟩) :=
    run_exportFrom _ count 0 []
  unfold Command.start exportWallets
  rw [run_bind listed]
  by_cases missing : 0 < count - (walletsIn read directory count).length
  · rw [if_neg (none_missing_iff.mp missing)]
    dsimp only
    rw [if_pos missing]
    rfl
  · rw [if_pos (not_not.mp (mt none_missing_iff.mpr missing))]
    dsimp only
    rw [if_neg missing]
    rfl

end Exported

/-- An export of the wallets below a number: they are those whose stores hold the key of an account, in
increasing order; one entry for each is written, and the others are told by their number. -/
structure Exports (read : String → Except Store.Fault Store.Database) (directory : String) (count : Nat)
    (wallets : List ExportedWallet) : Prop where
  increasing : wallets.Pairwise fun left right => left.index < right.index
  mem_iff : ∀ index account, ⟨index, account⟩ ∈ wallets ↔ index < count ∧
    ∃ key, HoldsKey (read (rootKeyPath directory index)) key ∧ key.account = .ok account
  run : Command.start (exportWallets read directory count) none =
    (if wallets.map (·.index) = List.range count then .ok wallets
      else .error (.incomplete (count - wallets.length) count),
      wallets.flatMap fun wallet => Text.Utf8.encode
        s!"- address:  {wallet.account.address.toText}\n  mnemonic: {wallet.account.mnemonic}\n")

theorem exports_walletsIn (read : String → Except Store.Fault Store.Database) (directory : String)
    (count : Nat) : Exports read directory count (walletsIn read directory count) where
  increasing := walletsFrom_increasing _ count 0
  mem_iff _ _ := mem_walletsIn_iff
  run := start_exportWallets

/-- The mnemonic and the address of an entry give back the account and the key that the wallet's store
holds. -/
structure Restores (key : RootKey) (wallet : ExportedWallet) : Prop where
  mnemonic : ∃ account, Account.ofMnemonic wallet.account.mnemonic = .ok account ∧
    account.seed.toList = key.secretKey.toList.take 32 ∧
    account.address.toText = wallet.account.address.toText
  address : Address.parse wallet.account.address.toText = .ok ⟨key.publicKey⟩

theorem restores_of_account {key : RootKey} {wallet : ExportedWallet}
    (recovered : key.account = .ok wallet.account) : Restores key wallet := by
  obtain ⟨seed, address⟩ := RootKey.account_eq_ok_iff.mp recovered
  refine ⟨⟨wallet.account, wallet.account.ofMnemonic_mnemonic, ?_, rfl⟩, ?_⟩
  · rw [seed]
    rfl
  · rw [Address.parse_eq_ok_iff, address]

/-- An export lists every wallet whose account can be recovered, whatever becomes of the others. Each of
its entries gives the account of that wallet back, and a change of the store of another wallet leaves
the entry as it is. -/
theorem export_lists_recovered (read : String → Except Store.Fault Store.Database) (directory : String)
    (count : Nat) : ∃ wallets, Exports read directory count wallets ∧
      (∀ wallet ∈ wallets, ∃ key, HoldsKey (read (rootKeyPath directory wallet.index)) key ∧
        Restores key wallet) ∧
      ∀ other source, ∃ others,
        Exports (Function.update read (rootKeyPath directory other) source) directory count others ∧
        others.filter (·.index ≠ other) = wallets.filter (·.index ≠ other) := by
  refine ⟨walletsIn read directory count, exports_walletsIn .., fun wallet member => ?_,
    fun other source => ⟨_, exports_walletsIn .., ?_⟩⟩
  · obtain ⟨_, key, holds, recovered⟩ := mem_walletsIn_iff.mp member
    exact ⟨key, holds, restores_of_account recovered⟩
  · refine filter_walletsFrom_congr (fun index different => ?_) count 0
    have path : rootKeyPath directory index ≠ rootKeyPath directory other :=
      (rootKeyPath_injective directory).ne different
    rw [Function.update_of_ne path]

end WalletTools.Tools
