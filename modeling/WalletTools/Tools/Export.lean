import WalletTools.Ledger.RootKey
import WalletTools.Tools.Error

/-! The tool that lists the root accounts of a network's wallets. Each wallet has a file; those that
cannot be read are left out and counted. -/
namespace WalletTools.Tools

/-- A file name in a directory. -/
def joinPath (directory name : String) : String :=
  if directory = "" ∨ directory.endsWith "/" then directory ++ name else directory ++ "/" ++ name

/-- The path of a wallet's file. -/
def rootKeyPath (directory : String) (index : Nat) : String :=
  joinPath directory s!"wallet_{index}.rootkey"

/-- The root account of a wallet. -/
def rootAccount (source : Except Store.Fault Store.Database) : Except Error Ledger.Account := do
  let database ← source.mapError .store
  let record ← (Store.Database.firstBlob database "RootAccount" "data").mapError .store
  let key ← (Ledger.RootKey.decode record).mapError .ledger
  key.account.mapError .ledger

/-- A wallet whose account is listed. -/
structure ExportedWallet where
  index : Nat
  account : Ledger.Account
deriving DecidableEq

/-- The entry of a wallet in the list. -/
def ExportedWallet.text (wallet : ExportedWallet) : String :=
  s!"- address:  {wallet.account.address.toText}\n  mnemonic: {wallet.account.mnemonic}\n"

/-- Lists `count` wallets from an index on; gives those listed and the number of the others. -/
def exportFrom (account : Nat → Except Error Ledger.Account) :
    (count index : Nat) → Command Id (List ExportedWallet × Nat)
  | 0, _ => return ([], 0)
  | count + 1, index => do
    match account index with
    | .ok found =>
      let wallet : ExportedWallet := ⟨index, found⟩
      write wallet.text
      let (wallets, failed) ← exportFrom account count (index + 1)
      return (wallet :: wallets, failed)
    | .error _ =>
      let (wallets, failed) ← exportFrom account count (index + 1)
      return (wallets, failed + 1)

/-- Lists the first `count` wallets of a directory, where `read` reads files. -/
def exportWallets (read : String → Except Store.Fault Store.Database) (directory : String)
    (count : Nat) : Command Id (List ExportedWallet) := do
  let (wallets, failed) ← exportFrom (fun index => rootAccount (read (rootKeyPath directory index)))
    count 0
  if 0 < failed then throw (.incomplete failed count)
  return wallets

end WalletTools.Tools
