import Mathlib
import WalletTools.Proofs.Ledger.RoundTrip

/-! How many bytes a payment takes. Each field takes its own bytes, or none where it is left out, and a
signature takes the same number of bytes whatever it is. Of all bytes that are read as a payment, those
that are written for it are the fewest: each entry that is written has one of the entries that were read
to itself, which is no shorter. -/
namespace WalletTools

/-- What is kept once of some values takes no more than all of them. -/
theorem sum_map_le_of_subset (size : ι → Nat) {kept values : List ι} (once : kept.Nodup)
    (among : kept ⊆ values) : (kept.map size).sum ≤ (values.map size).sum := by
  obtain ⟨part, same, within⟩ := List.subperm_of_subset once among
  rw [← (same.map size).sum_eq]
  exact (within.map size).sum_le_sum fun _ _ => Nat.zero_le _

namespace Form

theorem Each.sum_le_length {form : Form α} {size : α → Nat} (each : Each form values piece)
    (least : ∀ value piece, form value piece → size value ≤ piece.length) :
    (values.map size).sum ≤ piece.length := by
  induction each with
  | nil => exact Nat.le_refl 0
  | cons first _ ih =>
    rw [List.map_cons, List.sum_cons, List.length_append]
    exact Nat.add_le_add (least _ _ first) ih

end Form

namespace Ledger

open MessagePack

namespace Transaction

/-! ## Payments that are written -/

theorem Field.all_nodup : all.Nodup := by decide

/-- The bytes that a field takes with a value: none where the value is left out. -/
def Field.size (field : Field) (value : field.Value) : Nat :=
  if value = field.blank then 0 else (Entry.bytes ⟨field, value⟩).length

theorem length_entryOf (transaction : Transaction) (field : Field) :
    ((transaction.entryOf field).flatMap Entry.bytes).length = field.size (transaction.value field) := by
  unfold entryOf Field.size
  split
  · rfl
  · rw [List.flatMap_singleton]

private theorem length_encode_eq (transaction : Transaction) :
    transaction.encode.length = 1 + (transaction.written.flatMap Entry.bytes).length := by
  have few : transaction.written.length < 16 :=
    Nat.lt_of_le_of_lt transaction.length_written (by decide)
  rw [encode_eq, writeMap_small few, List.length_append, List.length_singleton]

/-- A payment takes the bytes of its fields, and one more for their number. -/
theorem length_encode_fields (transaction : Transaction) : transaction.encode.length =
    1 + (Field.all.map fun field => field.size (transaction.value field)).sum := by
  rw [length_encode_eq, written, List.flatMap_assoc, List.length_flatMap]
  simp only [length_entryOf]

theorem length_encode_written (transaction : Transaction) : transaction.encode.length =
    1 + (transaction.written.map fun entry => entry.bytes.length).sum := by
  rw [length_encode_eq, List.length_flatMap]

end Transaction

/-- A signature takes so many bytes, whatever they are. -/
theorem SignedTransaction.length_encode (signed : SignedTransaction) :
    signed.encode.length = signed.transaction.signedSize := by
  unfold Transaction.signedSize encode MessagePack.writeBin
  simp only [List.length_append, FixedBytes.length_toList]

namespace Transaction

theorem signedSize_eq (transaction : Transaction) :
    transaction.signedSize = transaction.encode.length + 75 := by
  have header : (writeMap 2).length = 1 := rfl
  have signature : (SignedTransaction.Entry.sig (.zero 64)).bytes.length = 70 := rfl
  have name : (writeStr "txn").length = 4 := rfl
  rw [signedSize, SignedTransaction.encode_eq_bytes, List.length_append, List.length_append, header,
    signature, SignedTransaction.Entry.bytes, List.length_append, name]
  dsimp only
  omega

/-- A fee takes its own bytes, and the other fields take what they take without it. -/
theorem signedSize_fee (transaction : Transaction) (fee : UInt64) :
    { transaction with fee }.signedSize =
      { transaction with fee := 0 }.signedSize + Field.fee.size fee := by
  have others : (Field.all.erase .fee).map (fun field =>
      field.size ({ transaction with fee }.value field)) = (Field.all.erase .fee).map fun field =>
        field.size ({ transaction with fee := 0 }.value field) := by
    refine List.map_congr_left fun field member => ?_
    have different := (Field.all_nodup.mem_erase_iff.mp member).1
    cases field with
    | fee => exact absurd rfl different
    | _ => rfl
  rw [signedSize_eq, signedSize_eq, length_encode_fields, length_encode_fields,
    ← List.sum_map_erase _ (Field.mem_all .fee), ← List.sum_map_erase _ (Field.mem_all .fee), others]
  have own : Field.fee.size ({ transaction with fee }.value .fee) = Field.fee.size fee := rfl
  have none : Field.fee.size ({ transaction with fee := 0 }.value .fee) = 0 := rfl
  omega

/-- The bytes of a number behind a name of so many bytes. A zero is left out. -/
def numberSize (name : Nat) (number : UInt64) : Nat :=
  if number = 0 then 0 else name + (writeUInt number).length

theorem size_fee_eq (fee : UInt64) : Field.fee.size fee = numberSize 4 fee := by
  have name : (writeStr Field.fee.name).length = 4 := rfl
  change (if fee = 0 then 0 else (writeStr Field.fee.name ++ writeUInt fee).length) = _
  rw [List.length_append, name, numberSize]

theorem numberSize_mono (name : Nat) {less number : UInt64} (le : less.toNat ≤ number.toNat) :
    numberSize name less ≤ numberSize name number := by
  unfold numberSize
  by_cases absent : less = 0
  · rw [if_pos absent]
    exact Nat.zero_le _
  · have present : number ≠ 0 := by
      rintro rfl
      exact absent (UInt64.toNat_inj.mp (Nat.le_zero.mp le))
    rw [if_neg absent, if_neg present]
    exact Nat.add_le_add_left (length_writeUInt_mono le) name

/-- A number that is not left out takes at most eight bytes fewer than any other. -/
theorem numberSize_le (name : Nat) {number : UInt64} (present : number ≠ 0) (other : UInt64) :
    numberSize name other ≤ numberSize name number + 8 := by
  have short := length_writeUInt_pos number
  have long := length_writeUInt_le_nine other
  unfold numberSize
  rw [if_neg present]
  split <;> omega

/-- A value that is written in no fewer bytes, and left out only where the other one is too. -/
theorem Field.size_le {field : Field} {less more : field.Value}
    (absent : more = field.blank → less = field.blank)
    (written : (field.write less).length ≤ (field.write more).length) :
    field.size less ≤ field.size more := by
  unfold size
  by_cases left : less = field.blank
  · rw [if_pos left]
    exact Nat.zero_le _
  · rw [if_neg left, if_neg (mt absent left), Entry.bytes, Entry.bytes, List.length_append,
      List.length_append]
    exact Nat.add_le_add_left written _

/-- A payment that takes no more bytes in any field takes no more in all. -/
theorem signedSize_le {less more : Transaction}
    (each : ∀ field : Field, field.size (less.value field) ≤ field.size (more.value field)) :
    less.signedSize ≤ more.signedSize := by
  rw [signedSize_eq, signedSize_eq, length_encode_fields, length_encode_fields]
  have sums : (Field.all.map fun field => field.size (less.value field)).sum ≤
      (Field.all.map fun field => field.size (more.value field)).sum :=
    List.sum_le_sum fun field _ => each field
  omega

/-! ## Payments that are read -/

theorem Field.length_write_le {field : Field} {value : field.Value} {piece : Bytes}
    (stands : field.form value piece) : (field.write value).length ≤ piece.length := by
  cases field with
  | amount => exact UIntForm.length_le stands
  | fee => exact UIntForm.length_le stands
  | firstValid => exact UIntForm.length_le stands
  | lastValid => exact UIntForm.length_le stands
  | genesisId => exact StrForm.length_le stands
  | type => exact StrForm.length_le stands
  | note => exact BinForm.length_le stands
  | genesisHash => exact BinForm.length_le stands
  | receiver => exact BinForm.length_le stands
  | sender => exact BinForm.length_le stands

theorem Entry.length_bytes_le {entry : Entry} {piece : Bytes} (stands : entry.form piece) :
    entry.bytes.length ≤ piece.length := by
  obtain ⟨key, value, named, stands, rfl⟩ := stands
  rw [Entry.bytes, List.length_append, List.length_append]
  exact Nat.add_le_add named.length_le (Field.length_write_le stands)

theorem written_nodup (transaction : Transaction) : transaction.written.Nodup :=
  List.Nodup.of_map Entry.field (transaction.fields_written.nodup Field.all_nodup)

/-- What a payment writes are entries that it was made of. -/
theorem written_subset {entries : List Entry} (payment : lastOf .type entries = some paymentType) :
    (ofEntries entries).written ⊆ entries := by
  intro entry member
  obtain ⟨field, value⟩ := entry
  obtain ⟨rfl, present⟩ := mem_written.mp member
  rw [value_ofEntries payment] at present ⊢
  cases given : lastOf field entries with
  | none => simp [given] at present
  | some value => exact mem_of_lastOf given

theorem length_encode_le {transaction : Transaction} {piece : Bytes} (stands : transaction.form piece) :
    transaction.encode.length ≤ piece.length := by
  obtain ⟨entries, header, body, counted, each, rfl, payment, rfl⟩ := stands
  have begun := counted.length_pos
  have kept : ((ofEntries entries).written.map fun entry => entry.bytes.length).sum ≤
      (entries.map fun entry => entry.bytes.length).sum :=
    sum_map_le_of_subset _ (written_nodup _) (written_subset payment)
  have read : (entries.map fun entry => entry.bytes.length).sum ≤ body.length :=
    each.sum_le_length fun _ _ => Entry.length_bytes_le
  rw [length_encode_written, List.length_append]
  omega

end Transaction

/-! ## Signed payments that are read -/

namespace SignedTransaction

namespace Entry

theorem signedLength_bytes_le {entry : Entry} {piece : Bytes} (stands : EntryForm entry piece) :
    entry.bytes.length ≤ piece.length := by
  cases stands with
  | sig key value =>
    rw [bytes, List.length_append, List.length_append]
    exact Nat.add_le_add key.length_le (BinForm.length_le value)
  | txn key value =>
    rw [bytes, List.length_append, List.length_append]
    exact Nat.add_le_add key.length_le (Transaction.length_encode_le value)

end Entry

theorem length_signed_le {signed : SignedTransaction} {piece : Bytes} (stands : form signed piece) :
    signed.encode.length ≤ piece.length := by
  obtain ⟨entries, header, body, counted, each, rfl, transaction, signature⟩ := stands
  have begun := counted.length_pos
  have among : [Entry.sig signed.signature, .txn signed.transaction] ⊆ entries := by
    obtain ⟨txn, txn_member, held⟩ := mem_of_lastGiven transaction
    obtain ⟨sig, sig_member, kept⟩ := mem_of_lastGiven signature
    cases txn with
    | sig _ => cases held
    | txn _ =>
      cases held
      cases sig with
      | txn _ => cases kept
      | sig _ =>
        cases kept
        exact List.cons_subset.mpr ⟨sig_member, List.cons_subset.mpr ⟨txn_member, List.nil_subset _⟩⟩
  have kept := sum_map_le_of_subset (fun entry => (Entry.bytes entry).length) (by simp) among
  have read := each.sum_le_length fun _ _ => Entry.signedLength_bytes_le
  rw [encode_eq_bytes, List.length_append, List.length_append, List.length_append]
  simp only [List.map_cons, List.map_nil, List.sum_cons, List.sum_nil] at kept
  have small : (writeMap 2).length = 1 := rfl
  omega

end SignedTransaction

end Ledger

end WalletTools
