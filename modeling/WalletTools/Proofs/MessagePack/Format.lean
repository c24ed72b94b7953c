import WalletTools.MessagePack.Reader
import WalletTools.MessagePack.Writer
import WalletTools.Proofs.Form
import WalletTools.Proofs.Radix

/-! The MessagePack format, and that the readers follow it: a header may be of any width that has room
for its number, and an integer that is not negative may be written with or without a sign. -/
namespace WalletTools.MessagePack

/-- Bytes that write a number in base 256, the most significant first. -/
structure Digits (width number : Nat) (bytes : Bytes) : Prop where
  length : bytes.length = width
  value : bytes.foldl (fun number byte => 256 * number + byte.toNat) 0 = number

inductive MapHeader : Nat → Bytes → Prop
  | fix (small : count < 16) : MapHeader count [UInt8.ofNat (0x80 + count)]
  | two (written : Digits 2 count digits) : MapHeader count (0xde :: digits)
  | four (written : Digits 4 count digits) : MapHeader count (0xdf :: digits)

inductive ArrayHeader : Nat → Bytes → Prop
  | fix (small : count < 16) : ArrayHeader count [UInt8.ofNat (0x90 + count)]
  | two (written : Digits 2 count digits) : ArrayHeader count (0xdc :: digits)
  | four (written : Digits 4 count digits) : ArrayHeader count (0xdd :: digits)

inductive StrHeader : Nat → Bytes → Prop
  | fix (small : size < 32) : StrHeader size [UInt8.ofNat (0xa0 + size)]
  | one (written : Digits 1 size digits) : StrHeader size (0xd9 :: digits)
  | two (written : Digits 2 size digits) : StrHeader size (0xda :: digits)
  | four (written : Digits 4 size digits) : StrHeader size (0xdb :: digits)

inductive BinHeader : Nat → Bytes → Prop
  | one (written : Digits 1 size digits) : BinHeader size (0xc4 :: digits)
  | two (written : Digits 2 size digits) : BinHeader size (0xc5 :: digits)
  | four (written : Digits 4 size digits) : BinHeader size (0xc6 :: digits)

/-- An integer written without a sign. -/
inductive Unsigned : Nat → Bytes → Prop
  | fix (small : number < 128) : Unsigned number [UInt8.ofNat number]
  | one (written : Digits 1 number digits) : Unsigned number (0xcc :: digits)
  | two (written : Digits 2 number digits) : Unsigned number (0xcd :: digits)
  | four (written : Digits 4 number digits) : Unsigned number (0xce :: digits)
  | eight (written : Digits 8 number digits) : Unsigned number (0xcf :: digits)

/-- An integer written with a sign, whose most significant bit is not set. -/
inductive Signed : Nat → Bytes → Prop
  | one (small : number < 2 ^ 7) (written : Digits 1 number digits) : Signed number (0xd0 :: digits)
  | two (small : number < 2 ^ 15) (written : Digits 2 number digits) : Signed number (0xd1 :: digits)
  | four (small : number < 2 ^ 31) (written : Digits 4 number digits) : Signed number (0xd2 :: digits)
  | eight (small : number < 2 ^ 63) (written : Digits 8 number digits) : Signed number (0xd3 :: digits)

/-- An integer that is not negative. -/
def UIntForm : Form UInt64 := fun number piece =>
  Unsigned number.toNat piece ∨ Signed number.toNat piece

/-- A byte string behind its length. -/
def BinForm : Form Bytes := fun content piece =>
  ∃ header, BinHeader content.length header ∧ piece = header ++ content

/-- A byte string of a fixed length, behind that length. -/
def FixedForm (size : Nat) : Form (FixedBytes size) := fun fixed piece => BinForm fixed.toList piece

/-- The bytes of a text behind their number. -/
def StrForm : Form String := fun text piece =>
  ∃ header, StrHeader (Text.Utf8.encode text).length header ∧
    piece = header ++ Text.Utf8.encode text

/-! ## Numbers -/

private theorem ofBytes_eq_foldr (bytes : Bytes) :
    Radix.ofBytes bytes = bytes.foldr (fun byte number => 256 * number + byte.toNat) 0 := by
  induction bytes with
  | nil => rfl
  | cons byte bytes ih =>
    rw [List.foldr_cons, ← ih]
    exact Nat.add_comm _ _

theorem ofBytes_reverse (bytes : Bytes) : Radix.ofBytes bytes.reverse =
    bytes.foldl (fun number byte => 256 * number + byte.toNat) 0 := by
  rw [ofBytes_eq_foldr, List.foldr_reverse]

theorem digits_iff : Digits width number bytes ↔
    bytes.length = width ∧ Radix.ofBytes bytes.reverse = number := by
  rw [ofBytes_reverse]
  exact ⟨fun written => ⟨written.length, written.value⟩, fun ⟨length, value⟩ => ⟨length, value⟩⟩

theorem digits_iff_eq_bigEndian : Digits width number bytes ↔
    number < 256 ^ width ∧ bytes = bigEndian width number := by
  rw [digits_iff]
  constructor
  · intro stands
    obtain ⟨rfl, rfl⟩ := stands
    have small := Radix.ofBytes_lt bytes.reverse
    have back := Radix.toBytes_ofBytes bytes.reverse
    rw [List.length_reverse] at small back
    exact ⟨small, by rw [bigEndian, back, List.reverse_reverse]⟩
  · intro stands
    obtain ⟨small, rfl⟩ := stands
    rw [bigEndian, List.reverse_reverse, Radix.ofBytes_toBytes, Nat.mod_eq_of_lt small]
    exact ⟨by simp, rfl⟩

theorem Digits.lt (written : Digits width number bytes) : number < 256 ^ width :=
  (digits_iff_eq_bigEndian.mp written).1

theorem readNumber_follows (width : Nat) : Follows (readNumber width) (Digits width) := by
  intro bytes number rest
  simp only [digits_iff]
  unfold readNumber Reader.of
  change (if width ≤ bytes.length then
    ((Except.ok (Radix.ofBytes (bytes.take width).reverse) : Except Fault Nat), bytes.drop width)
    else (.error .data, bytes)) = _ ↔ _
  constructor
  · intro found
    split at found
    · rename_i enough
      cases found
      exact ⟨bytes.take width, ⟨by simp [enough], rfl⟩, (List.take_append_drop width bytes).symm⟩
    · cases found
  · intro stands
    obtain ⟨piece, ⟨rfl, rfl⟩, rfl⟩ := stands
    simp

theorem readMarker_follows : Follows readMarker (fun marker piece => piece = [marker]) := by
  intro bytes marker rest
  cases bytes with
  | nil =>
    change ((Except.error Fault.marker : Except Fault UInt8), []) = _ ↔ _
    simp
  | cons byte bytes =>
    change ((Except.ok byte : Except Fault UInt8), bytes) = _ ↔ _
    simp [eq_comm]

theorem take_follows (count : Nat) :
    Follows (take count) (fun content piece => content = piece ∧ piece.length = count) := by
  intro bytes content rest
  unfold take Reader.of
  change (if count ≤ bytes.length then
    ((Except.ok (bytes.take count) : Except Fault Bytes), bytes.drop count)
    else (.error (.short count bytes.length), bytes)) = _ ↔ _
  constructor
  · intro found
    split at found
    · rename_i enough
      cases found
      exact ⟨bytes.take count, ⟨rfl, by simp [enough]⟩, (List.take_append_drop count bytes).symm⟩
    · cases found
  · intro stands
    obtain ⟨piece, ⟨rfl, rfl⟩, rfl⟩ := stands
    simp

/-! ## Headers -/

/-- The markers of a family can be told apart, and its wide markers become wider. -/
structure Family.Sound (family : Family) : Prop where
  fits : family.first + family.count ≤ 256
  apart : ∀ entry ∈ family.wide,
    ¬ (family.first ≤ entry.1.toNat ∧ entry.1.toNat < family.first + family.count)
  distinct : (family.wide.map Prod.fst).Nodup
  positive : ∀ entry ∈ family.wide, 0 < entry.2
  rising : family.wide.Pairwise fun narrow wide => narrow.2 < wide.2

/-- A number behind any marker of a family. -/
inductive Family.Header (family : Family) : Nat → Bytes → Prop
  | fix (small : number < family.count) : Header family number [UInt8.ofNat (family.first + number)]
  | wide (listed : (marker, width) ∈ family.wide) (written : Digits width number digits) :
      Header family number (marker :: digits)

theorem lookup_eq_some {table : List (UInt8 × Nat)} (distinct : (table.map Prod.fst).Nodup)
    {marker : UInt8} {width : Nat} : table.lookup marker = some width ↔ (marker, width) ∈ table := by
  induction table with
  | nil => simp
  | cons entry table ih =>
    obtain ⟨key, value⟩ := entry
    have unique := List.nodup_cons.mp distinct
    by_cases same : marker = key
    · subst marker
      have absent : (key, width) ∉ table :=
        fun member => unique.1 (List.mem_map.mpr ⟨_, member, rfl⟩)
      simp [absent, eq_comm]
    · have differs : (marker == key) = false := beq_eq_false_iff_ne.mpr same
      simp [List.lookup_cons, differs, same, ih unique.2]

theorem Family.read_follows {family : Family} (sound : family.Sound) :
    Follows family.read family.Header := by
  intro bytes number rest
  unfold Family.read
  rw [outcome_bind_eq_ok]
  constructor
  · intro stands
    obtain ⟨marker, left, found, success⟩ := stands
    obtain ⟨_, rfl, rfl⟩ := (readMarker_follows _ _ _).mp found
    split at success
    · rename_i near
      cases success
      have back : UInt8.ofNat (family.first + (marker.toNat - family.first)) = marker := by
        rw [Nat.add_sub_cancel' near.1, UInt8.ofNat_toNat]
      refine ⟨_, .fix (by omega), ?_⟩
      rw [back]
    · split at success
      · rename_i width known
        obtain ⟨digits, written, rfl⟩ := (readNumber_follows width _ _ _).mp success
        exact ⟨_, .wide ((lookup_eq_some sound.distinct).mp known) written, rfl⟩
      · cases success
  · intro stands
    obtain ⟨piece, header, rfl⟩ := stands
    cases header with
    | fix small =>
      refine ⟨_, rest, readMarker_follows.complete rfl rest, ?_⟩
      have value : (UInt8.ofNat (family.first + number)).toNat = family.first + number := by
        have fits := sound.fits
        rw [UInt8.toNat_ofNat', Nat.mod_eq_of_lt (by omega)]
      rw [if_pos (by omega), value, Nat.add_sub_cancel_left]
      rfl
    | @wide marker width _ digits listed written =>
      refine ⟨marker, digits ++ rest, readMarker_follows.complete rfl _, ?_⟩
      rw [if_neg (sound.apart _ listed), (lookup_eq_some sound.distinct).mpr listed]
      exact (readNumber_follows width).complete written rest

theorem Family.map_sound : Family.map.Sound :=
  ⟨by decide, by decide, by decide, by decide, by decide⟩

theorem Family.array_sound : Family.array.Sound :=
  ⟨by decide, by decide, by decide, by decide, by decide⟩

theorem Family.str_sound : Family.str.Sound :=
  ⟨by decide, by decide, by decide, by decide, by decide⟩

theorem Family.bin_sound : Family.bin.Sound :=
  ⟨by decide, by decide, by decide, by decide, by decide⟩

theorem Family.uint_sound : Family.uint.Sound :=
  ⟨by decide, by decide, by decide, by decide, by decide⟩

theorem Family.map_header {count : Nat} {piece : Bytes} :
    Family.map.Header count piece ↔ MapHeader count piece := by
  constructor
  · intro header
    cases header with
    | fix small => exact .fix small
    | wide listed written =>
      simp only [Family.map, List.mem_cons, Prod.mk.injEq, List.not_mem_nil, or_false] at listed
      rcases listed with ⟨rfl, rfl⟩ | ⟨rfl, rfl⟩
      · exact .two written
      · exact .four written
  · intro header
    cases header with
    | fix small => exact .fix small
    | two written => exact .wide (by decide) written
    | four written => exact .wide (by decide) written

theorem Family.array_header {count : Nat} {piece : Bytes} :
    Family.array.Header count piece ↔ ArrayHeader count piece := by
  constructor
  · intro header
    cases header with
    | fix small => exact .fix small
    | wide listed written =>
      simp only [Family.array, List.mem_cons, Prod.mk.injEq, List.not_mem_nil, or_false] at listed
      rcases listed with ⟨rfl, rfl⟩ | ⟨rfl, rfl⟩
      · exact .two written
      · exact .four written
  · intro header
    cases header with
    | fix small => exact .fix small
    | two written => exact .wide (by decide) written
    | four written => exact .wide (by decide) written

theorem Family.str_header {piece : Bytes} : Family.str.Header size piece ↔ StrHeader size piece := by
  constructor
  · intro header
    cases header with
    | fix small => exact .fix small
    | wide listed written =>
      simp only [Family.str, List.mem_cons, Prod.mk.injEq, List.not_mem_nil, or_false] at listed
      rcases listed with ⟨rfl, rfl⟩ | ⟨rfl, rfl⟩ | ⟨rfl, rfl⟩
      · exact .one written
      · exact .two written
      · exact .four written
  · intro header
    cases header with
    | fix small => exact .fix small
    | one written => exact .wide (by decide) written
    | two written => exact .wide (by decide) written
    | four written => exact .wide (by decide) written

theorem Family.bin_header {piece : Bytes} : Family.bin.Header size piece ↔ BinHeader size piece := by
  constructor
  · intro header
    cases header with
    | fix small => exact absurd small (Nat.not_lt_zero _)
    | wide listed written =>
      simp only [Family.bin, List.mem_cons, Prod.mk.injEq, List.not_mem_nil, or_false] at listed
      rcases listed with ⟨rfl, rfl⟩ | ⟨rfl, rfl⟩ | ⟨rfl, rfl⟩
      · exact .one written
      · exact .two written
      · exact .four written
  · intro header
    cases header with
    | one written => exact .wide (by decide) written
    | two written => exact .wide (by decide) written
    | four written => exact .wide (by decide) written

theorem Family.uint_header {piece : Bytes} : Family.uint.Header number piece ↔ Unsigned number piece := by
  constructor
  · intro header
    cases header with
    | fix small =>
      have plain : Unsigned number [UInt8.ofNat number] := .fix small
      simpa [Family.uint] using plain
    | wide listed written =>
      simp only [Family.uint, List.mem_cons, Prod.mk.injEq, List.not_mem_nil, or_false] at listed
      rcases listed with ⟨rfl, rfl⟩ | ⟨rfl, rfl⟩ | ⟨rfl, rfl⟩ | ⟨rfl, rfl⟩
      · exact .one written
      · exact .two written
      · exact .four written
      · exact .eight written
  · intro header
    cases header with
    | fix small =>
      have plain : Family.uint.Header number [UInt8.ofNat (0 + number)] := .fix small
      simpa using plain
    | one written => exact .wide (by decide) written
    | two written => exact .wide (by decide) written
    | four written => exact .wide (by decide) written
    | eight written => exact .wide (by decide) written

/-- Whether a marker is one of the family. -/
def Family.Owns (family : Family) (marker : UInt8) : Prop :=
  (family.first ≤ marker.toNat ∧ marker.toNat < family.first + family.count) ∨
    marker ∈ family.wide.map Prod.fst

instance (family : Family) (marker : UInt8) : Decidable (family.Owns marker) :=
  inferInstanceAs (Decidable (_ ∨ _))

theorem Family.Header.owned {family : Family} (sound : family.Sound)
    (header : family.Header number piece) : ∃ marker rest, family.Owns marker ∧ piece = marker :: rest := by
  cases header with
  | fix small =>
    have fits := sound.fits
    refine ⟨_, _, .inl ?_, rfl⟩
    rw [UInt8.toNat_ofNat', Nat.mod_eq_of_lt (by omega)]
    omega
  | wide listed _ => exact ⟨_, _, .inr (List.mem_map.mpr ⟨_, listed, rfl⟩), rfl⟩

/-- No bytes begin with a header of a map and also with one of an array. -/
theorem mapHeader_ne_arrayHeader (map : MapHeader count front) (array : ArrayHeader size back)
    (left right : Bytes) : front ++ left ≠ back ++ right := by
  have apart : ∀ byte : Fin 256, ¬ (Family.map.Owns (UInt8.ofFin byte) ∧
      Family.array.Owns (UInt8.ofFin byte)) := by decide +kernel
  obtain ⟨marker, _, owned, rfl⟩ := (Family.map_header.mpr map).owned Family.map_sound
  obtain ⟨other, _, other_owned, rfl⟩ := (Family.array_header.mpr array).owned Family.array_sound
  intro same
  obtain ⟨rfl, _⟩ := List.cons.inj same
  exact apart marker.toFin ⟨owned, other_owned⟩

theorem MapHeader.length_pos (header : MapHeader count piece) : 0 < piece.length := by
  cases header <;> exact Nat.succ_pos _

theorem readMap_follows : Follows readMap MapHeader :=
  (Family.read_follows Family.map_sound).congr fun _ _ => Family.map_header

theorem readArray_follows : Follows readArray ArrayHeader :=
  (Family.read_follows Family.array_sound).congr fun _ _ => Family.array_header

theorem readBin_follows : Follows readBin BinForm := by
  refine ((Family.read_follows Family.bin_sound).bind take_follows).congr fun content piece => ?_
  constructor
  · intro stands
    obtain ⟨size, header, _, written, ⟨rfl, rfl⟩, rfl⟩ := stands
    exact ⟨header, Family.bin_header.mp written, rfl⟩
  · intro stands
    obtain ⟨header, written, rfl⟩ := stands
    exact ⟨_, header, content, Family.bin_header.mpr written, ⟨rfl, rfl⟩, rfl⟩

theorem readFixed_follows (size : Nat) : Follows (readFixed size) (FixedForm size) := by
  intro bytes fixed rest
  unfold readFixed
  rw [outcome_bind_eq_ok]
  constructor
  · intro stands
    obtain ⟨content, left, found, success⟩ := stands
    obtain ⟨piece, stands, rfl⟩ := (readBin_follows _ _ _).mp found
    split at success
    · rename_i sized
      cases success
      obtain rfl := FixedBytes.ofList?_eq_some_iff.mp sized
      exact ⟨piece, stands, rfl⟩
    · cases success
  · intro stands
    obtain ⟨piece, stands, rfl⟩ := stands
    refine ⟨fixed.toList, rest, readBin_follows.complete stands rest, ?_⟩
    rw [FixedBytes.ofList?_toList]
    rfl

private theorem decoded_follows (content : Bytes) :
    Follows (match Text.Utf8.decode content with
      | .ok text => pure text
      | .error fault => throw (.text fault) : Reader String)
      (fun text piece => content = Text.Utf8.encode text ∧ piece = []) := by
  intro bytes text rest
  simp only [← Text.Utf8.decode_eq_ok_iff]
  cases Text.Utf8.decode content with
  | error fault => simp [outcome_throw]
  | ok found =>
    constructor
    · intro success
      cases success
      exact ⟨[], ⟨rfl, rfl⟩, rfl⟩
    · intro stands
      obtain ⟨piece, ⟨same, rfl⟩, rfl⟩ := stands
      cases same
      rfl

theorem readStr_follows : Follows readStr StrForm := by
  refine ((Family.read_follows Family.str_sound).bind fun size =>
    (take_follows size).bind decoded_follows).congr fun text piece => ?_
  constructor
  · intro stands
    obtain ⟨_, header, _, written, ⟨_, _, _, ⟨rfl, rfl⟩, ⟨rfl, rfl⟩, rfl⟩, rfl⟩ := stands
    exact ⟨header, Family.str_header.mp written, by simp⟩
  · intro stands
    obtain ⟨header, written, rfl⟩ := stands
    exact ⟨_, header, _, Family.str_header.mpr written, ⟨_, _, [], ⟨rfl, rfl⟩, ⟨rfl, rfl⟩, rfl⟩, by simp⟩

end WalletTools.MessagePack
