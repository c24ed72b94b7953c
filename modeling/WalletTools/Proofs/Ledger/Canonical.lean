import Mathlib.Data.List.Sort
import WalletTools.Proofs.Ledger.RoundTrip

/-! The canonical form of payments, told without the writer, and that the writer reaches exactly the
bytes of that form. -/
namespace WalletTools.Ledger

open MessagePack

namespace Transaction

namespace Field

def nameBytes (field : Field) : Bytes := Text.Utf8.encode field.name

/-- The pieces of a canonical payment for a value. A value that is left out has none; numbers and
lengths are as short as they can be. -/
def CanonicalForm : (field : Field) → Form field.Value
  | .amount | .fee | .firstValid | .lastValid => fun number piece =>
    number ≠ (0 : UInt64) ∧ Form.Shortest Unsigned (UInt64.toNat number) piece
  | .genesisId | .type => fun text piece => text ≠ "" ∧ ShortestStr text piece
  | .note => fun content piece => content ≠ ([] : Bytes) ∧ ShortestBin content piece
  | .genesisHash | .receiver | .sender => fun key piece =>
    key ≠ FixedBytes.zero 32 ∧ piece = 0xc4 :: 0x20 :: FixedBytes.toList key

private theorem canonical_number {number : UInt64} {piece : Bytes} :
    number ≠ 0 ∧ Form.Shortest Unsigned number.toNat piece ↔
      True ∧ number ≠ 0 ∧ piece = writeUInt number := by
  rw [shortest_unsigned, true_and]

private theorem canonical_text {text : String} {piece : Bytes} :
    text ≠ "" ∧ ShortestStr text piece ↔
      (Text.Utf8.encode text).length < 2 ^ 32 ∧ text ≠ "" ∧ piece = writeStr text := by
  rw [shortestStr_iff, and_left_comm]

private theorem canonical_content {content piece : Bytes} :
    content ≠ [] ∧ ShortestBin content piece ↔
      content.length < 2 ^ 32 ∧ content ≠ [] ∧ piece = writeBin content := by
  rw [shortestBin_iff, and_left_comm]

private theorem canonical_key {key : FixedBytes 32} {piece : Bytes} :
    key ≠ .zero 32 ∧ piece = 0xc4 :: 0x20 :: key.toList ↔
      True ∧ key ≠ .zero 32 ∧ piece = writeBin key.toList := by
  have header : Family.bin.write 32 = [0xc4, 0x20] := by decide
  rw [writeBin_eq (by rw [key.length_toList]; decide), key.length_toList, header, true_and]
  rfl

/-- A value that is not left out has one canonical piece, which is what is written. -/
theorem canonicalForm_iff {field : Field} {value : field.Value} {piece : Bytes} :
    field.CanonicalForm value piece ↔
      field.Fits value ∧ value ≠ field.blank ∧ piece = field.write value := by
  cases field with
  | amount => exact canonical_number
  | fee => exact canonical_number
  | firstValid => exact canonical_number
  | lastValid => exact canonical_number
  | genesisId => exact canonical_text
  | type => exact canonical_text
  | note => exact canonical_content
  | genesisHash => exact canonical_key
  | receiver => exact canonical_key
  | sender => exact canonical_key

theorem writeStr_name (field : Field) :
    writeStr field.name = UInt8.ofNat (0xa0 + field.nameBytes.length) :: field.nameBytes := by
  cases field <;> decide

theorem all_increasing : all.Pairwise fun left right => left.nameBytes < right.nameBytes := by
  decide

end Field

namespace Entry

/-- A name whose length is held by the marker, and behind it the canonical piece for the value. -/
def CanonicalForm : Form Entry := fun entry piece =>
  ∃ value, entry.field.CanonicalForm entry.value value ∧
    piece = UInt8.ofNat (0xa0 + entry.field.nameBytes.length) :: (entry.field.nameBytes ++ value)

/-- The bytes of the one name are before those of the other. -/
def Precedes (left right : Entry) : Prop := left.field.nameBytes < right.field.nameBytes

instance : Std.Asymm Precedes := ⟨fun _ _ before => List.lt_asymm before⟩

theorem canonicalForm_iff {entry : Entry} {piece : Bytes} : CanonicalForm entry piece ↔
    (entry.field.Fits entry.value ∧ entry.value ≠ entry.field.blank) ∧ piece = entry.bytes := by
  rw [bytes, Field.writeStr_name]
  constructor
  · intro stands
    obtain ⟨value, canonical, rfl⟩ := stands
    obtain ⟨fits, present, rfl⟩ := Field.canonicalForm_iff.mp canonical
    exact ⟨⟨fits, present⟩, rfl⟩
  · intro given
    obtain ⟨⟨fits, present⟩, rfl⟩ := given
    exact ⟨_, Field.canonicalForm_iff.mpr ⟨fits, present, rfl⟩, rfl⟩

theorem each_canonical_iff {entries : List Entry} {body : Bytes} :
    Form.Each CanonicalForm entries body ↔
      (∀ entry ∈ entries, entry.field.Fits entry.value ∧ entry.value ≠ entry.field.blank) ∧
        body = entries.flatMap bytes :=
  Form.each_iff fun _ _ => canonicalForm_iff

end Entry

/-- The canonical form: a map whose marker holds the number of its entries, the entries with their
names in strictly increasing order, and the type of payments among them. -/
def Canonical (bytes : Bytes) : Prop :=
  ∃ entries body, entries.length < 16 ∧ bytes = UInt8.ofNat (0x80 + entries.length) :: body ∧
    Form.Each Entry.CanonicalForm entries body ∧ entries.Pairwise Entry.Precedes ∧
    ⟨.type, paymentType⟩ ∈ entries

/-! ## What is written is canonical -/

theorem written_increasing (transaction : Transaction) :
    transaction.written.Pairwise Entry.Precedes :=
  List.Pairwise.of_map Entry.field (fun _ _ before => before)
    (Field.all_increasing.sublist transaction.fields_written)

theorem encode_canonical {transaction : Transaction} (fits : transaction.Fits) :
    Canonical transaction.encode := by
  have few : transaction.written.length < 16 :=
    Nat.lt_of_le_of_lt transaction.length_written (by decide)
  refine ⟨transaction.written, transaction.written.flatMap Entry.bytes, few, ?_, ?_,
    transaction.written_increasing, mem_written.mpr ⟨rfl, type_present transaction⟩⟩
  · rw [encode_eq, writeMap_small few]
    rfl
  · refine Entry.each_canonical_iff.mpr ⟨fun entry member => ?_, rfl⟩
    obtain ⟨field, value⟩ := entry
    obtain ⟨rfl, present⟩ := mem_written.mp member
    exact ⟨fits.value field, present⟩

/-! ## What is canonical is written -/

theorem fits_ofEntries {entries : List Entry}
    (fits : ∀ entry ∈ entries, entry.field.Fits entry.value) : (ofEntries entries).Fits := by
  have each (field : Field) : field.Fits ((lastOf field entries).getD field.blank) := by
    cases given : lastOf field entries with
    | none => exact field.blank_fits
    | some value => exact fits _ (mem_of_lastOf given)
  exact ⟨each .genesisId, each .note⟩

section Increasing

variable {entries : List Entry} (increasing : entries.Pairwise Entry.Precedes)
include increasing

theorem fields_nodup : (entries.map Entry.field).Nodup := by
  refine List.pairwise_map.mpr (increasing.imp ?_)
  intro left right before same
  rw [Entry.Precedes, same] at before
  exact List.lt_irrefl _ before

/-- Where the names increase, an entry is the only one of its name, and so the last one. -/
theorem lastOf_of_mem {field : Field} {value : field.Value} (member : ⟨field, value⟩ ∈ entries) :
    lastOf field entries = some value := by
  obtain ⟨last, given⟩ := lastOf_isSome member
  have same := List.inj_on_of_nodup_map (fields_nodup increasing) (mem_of_lastOf given) member rfl
  cases same
  exact given

theorem written_ofEntries (present : ∀ entry ∈ entries, entry.value ≠ entry.field.blank)
    (payment : ⟨.type, paymentType⟩ ∈ entries) : (ofEntries entries).written = entries := by
  have last := value_ofEntries (lastOf_of_mem increasing payment)
  -- Both lists are in the order of the names, so it is enough that they have the same entries.
  apply List.Pairwise.eq_of_mem_iff (ofEntries entries).written_increasing increasing
  intro entry
  obtain ⟨field, value⟩ := entry
  rw [mem_written, last]
  constructor
  · intro given
    obtain ⟨rfl, present⟩ := given
    cases found : lastOf field entries with
    | none => simp [found] at present
    | some value => exact mem_of_lastOf found
  · intro member
    rw [lastOf_of_mem increasing member]
    exact ⟨rfl, present _ member⟩

end Increasing

theorem Canonical.written {bytes : Bytes} (canonical : Canonical bytes) :
    ∃ transaction : Transaction, transaction.Fits ∧ transaction.encode = bytes := by
  obtain ⟨entries, body, few, rfl, each, increasing, payment⟩ := canonical
  obtain ⟨good, rfl⟩ := Entry.each_canonical_iff.mp each
  have written := written_ofEntries increasing (fun entry member => (good entry member).2) payment
  refine ⟨ofEntries entries, fits_ofEntries fun entry member => (good entry member).1, ?_⟩
  rw [encode_eq, written, writeMap_small few]
  rfl

theorem decode_fits {bytes : Bytes} {transaction : Transaction}
    (read : decode bytes = .ok transaction) : transaction.Fits := by
  obtain ⟨entries, header, body, _, each, rfl, _, rfl⟩ := decode_eq_ok_iff.mp read
  exact fits_ofEntries fun entry member => Entry.form_fits (each.exists_of_mem member).choose_spec

/-- The bytes that are written are those of the canonical form, and of the bytes that are read those
of the canonical form are written again. -/
theorem written_iff_canonical :
    (∀ bytes, (∃ transaction : Transaction, transaction.Fits ∧ transaction.encode = bytes) ↔
      Canonical bytes) ∧
    ∀ bytes transaction, decode bytes = .ok transaction →
      (transaction.encode = bytes ↔ Canonical bytes) := by
  have image (bytes : Bytes) :
      (∃ transaction : Transaction, transaction.Fits ∧ transaction.encode = bytes) ↔
        Canonical bytes := by
    constructor
    · intro written
      obtain ⟨transaction, fits, rfl⟩ := written
      exact encode_canonical fits
    · exact Canonical.written
  refine ⟨image, fun bytes transaction read => ?_⟩
  constructor
  · intro same
    exact (image bytes).mp ⟨transaction, decode_fits read, same⟩
  · intro canonical
    obtain ⟨other, fits, rfl⟩ := (image bytes).mpr canonical
    rw [decode_eq_ok_iff.mpr (encode_form fits)] at read
    cases read
    rfl

/-- The map of a payment without fields, with its number of entries in two bytes. -/
private def wideMap : Bytes :=
  [0xde, 0x00, 0x01, 0xa4, 0x74, 0x79, 0x70, 0x65, 0xa3, 0x70, 0x61, 0x79]

theorem wideMap_read_not_canonical : decode wideMap = .ok blank ∧ ¬ Canonical wideMap := by
  have read : decode wideMap = .ok blank := by decide
  have other : blank.encode ≠ wideMap := by decide
  exact ⟨read, fun canonical => other ((written_iff_canonical.2 wideMap blank read).mpr canonical)⟩

end Transaction

end WalletTools.Ledger
