import WalletTools.Ledger.Account
import WalletTools.Proofs.Curve.Ed25519
import WalletTools.Proofs.Except
import WalletTools.Proofs.Ledger.Identifier
import WalletTools.Proofs.Ledger.Size

/-! Signed payments. An account signs its own payments and no others; what it signs is accepted, also when it
comes back from its bytes, and its signature covers the bytes of no other payment. -/
namespace WalletTools.Ledger

theorem Account.sign_eq_ok_iff {account : Account} {transaction : Transaction}
    {signed : SignedTransaction} : account.sign transaction = .ok signed ↔
      transaction.sender = account.address ∧
        signed = ⟨transaction, Curve.Ed25519.sign account.seed transaction.bytesToSign⟩ := by
  unfold Account.sign
  split
  case isTrue foreign => exact ⟨nofun, fun given => absurd given.1 foreign⟩
  case isFalse own =>
    rw [Except.ok.injEq, eq_comm]
    exact (and_iff_right (not_not.mp own)).symm

namespace SignedTransaction

theorem verify_eq_ok_iff {signed : SignedTransaction} : signed.verify = .ok () ↔
    Curve.Ed25519.verify signed.transaction.sender.publicKey signed.transaction.bytesToSign
      signed.signature = .ok () := by
  rw [verify, mapError_eq_ok_iff]

/-- What holds of a payment that its sender has signed: it is accepted and read back from its bytes, their
number is the one that is estimated, and where the signature is accepted for another payment, it is one of
a second message. -/
structure Proves (signed : SignedTransaction) (transaction : Transaction) : Prop where
  same : signed.transaction = transaction
  verified : signed.verify = .ok ()
  read_back : decode signed.encode = .ok signed
  same_id : signed.id = transaction.id
  length : signed.encode.length = transaction.signedSize
  alone (other : Transaction) (fits : other.Fits) (different : other ≠ transaction) :
    other.bytesToSign ≠ transaction.bytesToSign ∧
      (verify ⟨other, signed.signature⟩ = .ok () ↔ Curve.Ed25519.verify other.sender.publicKey
        other.bytesToSign signed.signature = .ok ())

end SignedTransaction

/-- An account signs a payment if it is the sender, and what it signs proves that payment and no other. -/
theorem Account.sign_proves (account : Account) {transaction : Transaction} (fits : transaction.Fits) :
    ((∃ signed, account.sign transaction = .ok signed) ↔ transaction.sender = account.address) ∧
    (transaction.sender ≠ account.address → account.sign transaction =
      .error (.transaction (.foreignSender transaction.sender account.address))) ∧
    ∀ signed, account.sign transaction = .ok signed → signed.Proves transaction := by
  refine ⟨?_, fun foreign => if_pos foreign, ?_⟩
  · constructor
    · intro given
      obtain ⟨signed, signs⟩ := given
      exact (sign_eq_ok_iff.mp signs).1
    · intro own
      exact ⟨_, sign_eq_ok_iff.mpr ⟨own, rfl⟩⟩
  · intro signed signs
    obtain ⟨own, rfl⟩ := sign_eq_ok_iff.mp signs
    refine ⟨rfl, ?_, SignedTransaction.decode_eq_ok_iff.mpr (SignedTransaction.encode_form fits), rfl,
      SignedTransaction.length_encode _, ?_⟩
    · rw [SignedTransaction.verify_eq_ok_iff, own]
      exact Curve.Ed25519.verify_sign account.seed transaction.bytesToSign
    · intro other otherFits different
      exact ⟨mt (Transaction.bytesToSign_injective otherFits fits) different,
        SignedTransaction.verify_eq_ok_iff⟩

/-- A payment by the account whose seed is zero. -/
private def ownPayment : Transaction :=
  { Transaction.blank with sender := (Account.mk (.zero 32)).address, amount := 1 }

theorem sign_proves_ownPayment : ownPayment.Fits ∧ ∃ signed,
    (Account.mk (.zero 32)).sign ownPayment = .ok signed ∧ signed.verify = .ok () ∧
      SignedTransaction.decode signed.encode = .ok signed := by
  have fits : ownPayment.Fits := ⟨by decide, by decide⟩
  obtain ⟨signs, _, proves⟩ := Account.sign_proves ⟨.zero 32⟩ fits
  obtain ⟨signed, signs⟩ := signs.mpr rfl
  have proven := proves signed signs
  exact ⟨fits, signed, signs, proven.verified, proven.read_back⟩

end WalletTools.Ledger
