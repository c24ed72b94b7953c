import WalletTools.Proofs.Ledger.Grammar
import WalletTools.Proofs.Ledger.RootKey

/-! Bytes behind a record. A decoder reads no byte that does not belong to the record, so that it counts
what is left, and no bytes that it accepts begin others that it accepts. -/
namespace WalletTools.Ledger

/-- Bytes behind what is accepted are refused with their number. What is accepted is therefore refused
once anything of its end is cut off. -/
structure DetectsTrailing (decode : Bytes → Except Error α) (record : RecordKind) : Prop where
  counted (bytes : Bytes) (value : α) (extra : Bytes) (read : decode bytes = .ok value)
    (more : extra ≠ []) : decode (bytes ++ extra) = .error (.decoding (.trailing extra.length record))
  apart (front whole : Bytes) (left right : α) (read : decode front = .ok left)
    (others : decode whole = .ok right) (begins : front <+: whole) : front = whole

/-- A decoder that follows a form and then looks at nothing but the value notices what is left. -/
theorem detectsTrailing_of_follows {decode : Bytes → Except Error α} {record : RecordKind}
    {decoder : Decoder δ} {form : Form δ} (follows : Follows decoder form) (complete : δ → Except Error α)
    (shown : ∀ bytes, decode bytes = (decoder.whole record).decode bytes >>= complete) :
    DetectsTrailing decode record := by
  have counted (bytes : Bytes) (value : α) (extra : Bytes) (read : decode bytes = .ok value)
      (more : extra ≠ []) :
      decode (bytes ++ extra) = .error (.decoding (.trailing extra.length record)) := by
    rw [shown, Decoder.decode_whole_bind follows] at read
    obtain ⟨draft, stands, _⟩ := read
    rw [shown, Decoder.decode_whole_append follows record stands more]
    rfl
  refine ⟨counted, fun front whole left right read others begins => ?_⟩
  obtain ⟨extra, rfl⟩ := begins
  by_cases more : extra = []
  · rw [more, List.append_nil]
  · rw [counted front left extra read more] at others
    cases others

/-- Every decoder of a whole record notices each byte too many and each byte too few. -/
theorem decoders_detect_trailing :
    DetectsTrailing Transaction.decode .transaction ∧
    DetectsTrailing SignedTransaction.decode .signedTransaction ∧
    DetectsTrailing RootKey.decode .rootKey := by
  refine ⟨?_, ?_, ?_⟩
  · exact detectsTrailing_of_follows Transaction.decoder_follows pure fun _ => (bind_pure _).symm
  · exact detectsTrailing_of_follows SignedTransaction.drafts_follows _ SignedTransaction.decode_eq
  · exact detectsTrailing_of_follows RootKey.draft_follows _ RootKey.decode_eq

/-- One byte behind the shortest payment. -/
theorem decoders_detect_trailing_blank : Transaction.decode Transaction.blank.encode = .ok .blank ∧
    Transaction.decode (Transaction.blank.encode ++ [0]) =
      .error (.decoding (.trailing 1 .transaction)) := by
  have read : Transaction.decode Transaction.blank.encode = .ok .blank := by decide
  exact ⟨read, decoders_detect_trailing.1.counted _ _ [0] read (by decide)⟩

end WalletTools.Ledger
