import WalletTools.Proofs.Encoding.Base32
import WalletTools.Proofs.Ledger.RoundTrip

/-! Identifiers of payments. The bytes to sign tell payments apart, so that two payments share an
identifier only where the digest does not tell their bytes apart; and an identifier is the text of
that digest in base 32. -/
namespace WalletTools.Ledger.Transaction

/-- Payments are told apart by their bytes, which are read back. -/
theorem encode_injective {left right : Transaction} (leftFits : left.Fits) (rightFits : right.Fits)
    (same : left.encode = right.encode) : left = right := by
  have read := decode_eq_ok_iff.mpr (encode_form leftFits)
  rw [same, decode_eq_ok_iff.mpr (encode_form rightFits)] at read
  exact (Except.ok.inj read).symm

theorem bytesToSign_injective {left right : Transaction} (leftFits : left.Fits)
    (rightFits : right.Fits) (same : left.bytesToSign = right.bytesToSign) : left = right :=
  encode_injective leftFits rightFits (List.append_cancel_left same)

theorem id_eq_iff {left right : Transaction} : left.id = right.id ↔
    Digest.Sha512.hashHalf left.bytesToSign = Digest.Sha512.hashHalf right.bytesToSign := by
  constructor
  · intro same
    exact FixedBytes.ext (Base32.encode_injective same)
  · intro same
    rw [id, id, same]

/-- Payments have one identifier where they are the same, or where the digest of their different bytes
is; and an identifier is fifty-two symbols that write the digest. -/
theorem id_tells_apart {left right : Transaction} (leftFits : left.Fits) (rightFits : right.Fits) :
    (left.id = right.id ↔ left = right ∨ left.bytesToSign ≠ right.bytesToSign ∧
      Digest.Sha512.hashHalf left.bytesToSign = Digest.Sha512.hashHalf right.bytesToSign) ∧
    ∀ transaction : Transaction, transaction.id.length = 52 ∧
      (∀ char ∈ transaction.id.toList, char ∈ "ABCDEFGHIJKLMNOPQRSTUVWXYZ234567".toList) ∧
      Base32.decode (Text.Utf8.encode transaction.id) =
        .ok (Digest.Sha512.hashHalf transaction.bytesToSign).toList := by
  constructor
  · rw [id_eq_iff]
    constructor
    · intro same
      by_cases equal : left = right
      · exact .inl equal
      · exact .inr ⟨mt (bytesToSign_injective leftFits rightFits) equal, same⟩
    · intro given
      rcases given with rfl | ⟨_, same⟩
      · rfl
      · exact same
  · intro transaction
    refine ⟨?_, fun char member => Base32.mem_alphabet_of_mem_encode member, Base32.decode_eq_ok_iff.mpr rfl⟩
    rw [id, Base32.length_encode, FixedBytes.length_toList]
    rfl

/-- Two payments that differ in their amount have two identifiers. -/
theorem id_tells_apart_amounts :
    blank.Fits ∧ ({ blank with amount := 1 } : Transaction).Fits ∧
      ({ blank with amount := 1 } : Transaction).id ≠ blank.id := by
  have blankFits : blank.Fits := ⟨by decide, by decide⟩
  have paidFits : ({ blank with amount := 1 } : Transaction).Fits := ⟨by decide, by decide⟩
  refine ⟨blankFits, paidFits, fun same => ?_⟩
  rcases (id_tells_apart paidFits blankFits).1.mp same with equal | ⟨_, digest⟩
  · revert equal
    decide
  · revert digest
    decide +kernel

end WalletTools.Ledger.Transaction
