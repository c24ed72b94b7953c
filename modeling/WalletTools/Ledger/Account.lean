import WalletTools.Ledger.Mnemonic
import WalletTools.Ledger.SignedTransaction

/-! Accounts that can sign. An account is its seed. -/
namespace WalletTools.Ledger

structure Account where
  seed : FixedBytes 32
deriving DecidableEq

namespace Account

/-- The account of a mnemonic. -/
def ofMnemonic (phrase : String) : Except Error Account := return ⟨← Mnemonic.toKey phrase⟩

def address (account : Account) : Address := ⟨Curve.Ed25519.publicKey account.seed⟩

def mnemonic (account : Account) : String := Mnemonic.ofKey account.seed

/-- Signs a payment, whose sender has to be the account. -/
def sign (account : Account) (transaction : Transaction) : Except Error SignedTransaction :=
  if transaction.sender ≠ account.address then
    .error (.transaction (.foreignSender transaction.sender account.address))
  else
    .ok ⟨transaction, Curve.Ed25519.sign account.seed transaction.bytesToSign⟩

/-- What may be shown of an account: its address, never its seed. -/
def describe (account : Account) : String :=
  "Account \x7b address: " ++ Text.quote account.address.toText ++ " \x7d"

end Account

end WalletTools.Ledger
