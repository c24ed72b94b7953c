import WalletTools.Ledger.RootKey
import WalletTools.Proofs.Ledger.Mnemonic

/-! Accounts and where they come from: a mnemonic gives the account of the seed that it encodes, and a
root key that of its seed, if that account has the key's public key. -/
namespace WalletTools.Ledger

theorem Account.ofMnemonic_eq_ok_iff {phrase : String} {account : Account} :
    Account.ofMnemonic phrase = .ok account ↔ Mnemonic.toKey phrase = .ok account.seed := by
  unfold Account.ofMnemonic
  rw [bind_eq_ok_iff]
  constructor
  · intro given
    obtain ⟨seed, found, same⟩ := given
    cases same
    exact found
  · intro found
    exact ⟨account.seed, found, rfl⟩

/-- The mnemonic of an account gives the account back. -/
theorem Account.ofMnemonic_mnemonic (account : Account) :
    Account.ofMnemonic account.mnemonic = .ok account :=
  ofMnemonic_eq_ok_iff.mpr (Mnemonic.toKey_iff_words.mpr (Mnemonic.phraseWords_ofKey account.seed))

theorem RootKey.account_eq_ok_iff {key : RootKey} {account : Account} :
    key.account = .ok account ↔ account.seed = key.seed ∧ account.address = ⟨key.publicKey⟩ := by
  unfold RootKey.account
  dsimp only
  constructor
  · intro success
    split at success
    · cases success
    · rename_i same
      cases success
      exact ⟨rfl, congrArg Address.mk (not_not.mp same)⟩
  · intro given
    obtain ⟨_⟩ := account
    obtain ⟨rfl, same⟩ := given
    rw [if_neg (not_not.mpr (congrArg Address.publicKey same))]

end WalletTools.Ledger
