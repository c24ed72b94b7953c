import WalletTools.Proofs.MessagePack.Integers

/-! What is written is the shortest piece of its form, and the only one of that length. -/
namespace WalletTools

/-- The pieces of a form than which none for the same value is shorter. -/
def Form.Shortest (form : Form α) : Form α := fun value piece =>
  form value piece ∧ ∀ other, form value other → piece.length ≤ other.length

namespace MessagePack

private theorem length_bigEndian (width number : Nat) : (bigEndian width number).length = width := by
  simp [bigEndian]

namespace Family

variable {family : Family} {number : Nat} {piece : Bytes}

private theorem write_small (small : number < family.count) :
    family.write number = [UInt8.ofNat (family.first + number)] := by
  rw [write, if_pos small]

/-- The first wide marker that has room is taken, so no wider one is. -/
private theorem write_wide (sound : family.Sound) (large : ¬ number < family.count)
    (listed : (marker, width) ∈ family.wide) (room : number < 256 ^ width) :
    ∃ taken, taken ∈ family.wide ∧ number < 256 ^ taken.2 ∧
      family.write number = taken.1 :: bigEndian taken.2 number ∧
      (taken = (marker, width) ∨ taken.2 < width) := by
  cases found : family.wide.find? fun entry => number < 256 ^ entry.2 with
  | none =>
    have absent := List.find?_eq_none.mp found _ listed
    simp [room] at absent
  | some taken =>
    obtain ⟨holds, before, behind, split, earlier⟩ := List.find?_eq_some_iff_append.mp found
    refine ⟨taken, List.mem_of_find?_eq_some found, by simpa using holds, ?_, ?_⟩
    · rw [write, if_neg large, found]
    · -- The marker that is listed has room, so it is not before the one that was found.
      have rising := sound.rising
      rw [split] at listed rising
      rcases List.mem_append.mp listed with member | member
      · have refused := earlier _ member
        simp [room] at refused
      · rcases List.mem_cons.mp member with same | later
        · exact .inl same.symm
        · exact .inr ((List.pairwise_cons.mp (List.pairwise_append.mp rising).2.1).1 _ later)

/-- A number that has a header at all is written as a header; any other header of it is longer. -/
theorem Header.write (sound : family.Sound) (header : family.Header number piece) :
    family.Header number (family.write number) ∧
      (piece = family.write number ∨ (family.write number).length < piece.length) := by
  by_cases small : number < family.count
  · rw [write_small small]
    refine ⟨.fix small, ?_⟩
    cases header with
    | fix _ => exact .inl rfl
    | wide listed written =>
      have positive := sound.positive _ listed
      have length := written.length
      simp only [List.length_cons, List.length_nil]
      exact .inr (by omega)
  · cases header with
    | fix small' => exact absurd small' small
    | @wide marker width _ digits listed written =>
      obtain ⟨room, rfl⟩ := digits_iff_eq_bigEndian.mp written
      obtain ⟨taken, member, fits, same, narrow⟩ := write_wide sound small listed room
      rw [same]
      refine ⟨.wide member (digits_iff_eq_bigEndian.mpr ⟨fits, rfl⟩), ?_⟩
      rcases narrow with rfl | narrow
      · exact .inl rfl
      · simp only [List.length_cons, length_bigEndian]
        exact .inr (by omega)

theorem shortest_iff (sound : family.Sound) (header : family.Header number other) :
    Form.Shortest family.Header number piece ↔ piece = family.write number := by
  constructor
  · intro stands
    obtain ⟨stands, least⟩ := stands
    obtain ⟨written, same | longer⟩ := Header.write sound stands
    · exact same
    · have := least _ written
      omega
  · intro same
    subst same
    refine ⟨(Header.write sound header).1, fun other stands => ?_⟩
    rcases (Header.write sound stands).2 with rfl | longer
    · exact Nat.le_refl _
    · exact Nat.le_of_lt longer

theorem header_write (sound : family.Sound) (listed : (marker, width) ∈ family.wide)
    (room : number < 256 ^ width) : family.Header number (family.write number) :=
  (Header.write sound (.wide listed (digits_iff_eq_bigEndian.mpr ⟨room, rfl⟩))).1

end Family

/-! ## Values -/

theorem writeMap_header (fits : count < 2 ^ 32) : MapHeader count (writeMap count) := by
  rw [writeMap, Nat.mod_eq_of_lt fits, ← Family.map_header]
  exact Family.header_write Family.map_sound (show (0xdf, 4) ∈ Family.map.wide by decide) fits

theorem writeMap_small (small : count < 16) : writeMap count = [UInt8.ofNat (0x80 + count)] := by
  rw [writeMap, Nat.mod_eq_of_lt (Nat.lt_trans small (by decide))]
  exact Family.write_small (show count < Family.map.count from small)

private theorem str_header_write (fits : size < 2 ^ 32) : Family.str.Header size (Family.str.write size) :=
  Family.header_write Family.str_sound (show (0xdb, 4) ∈ Family.str.wide by decide) fits

private theorem bin_header_write (fits : size < 2 ^ 32) : Family.bin.Header size (Family.bin.write size) :=
  Family.header_write Family.bin_sound (show (0xc6, 4) ∈ Family.bin.wide by decide) fits

private theorem uint_header_write (number : UInt64) :
    Family.uint.Header number.toNat (writeUInt number) :=
  Family.header_write Family.uint_sound (show (0xcf, 8) ∈ Family.uint.wide by decide) number.toNat_lt

theorem writeStr_eq (fits : (Text.Utf8.encode text).length < 2 ^ 32) : writeStr text =
    Family.str.write (Text.Utf8.encode text).length ++ Text.Utf8.encode text := by
  rw [writeStr, Nat.mod_eq_of_lt fits]

theorem writeBin_eq (fits : content.length < 2 ^ 32) :
    writeBin content = Family.bin.write content.length ++ content := by
  rw [writeBin, Nat.mod_eq_of_lt fits]

theorem writeStr_form (fits : (Text.Utf8.encode text).length < 2 ^ 32) : StrForm text (writeStr text) :=
  ⟨_, Family.str_header.mp (str_header_write fits), writeStr_eq fits⟩

theorem writeBin_form (fits : content.length < 2 ^ 32) : BinForm content (writeBin content) :=
  ⟨_, Family.bin_header.mp (bin_header_write fits), writeBin_eq fits⟩

theorem writeUInt_form (number : UInt64) : UIntForm number (writeUInt number) :=
  .inl (Family.uint_header.mp (uint_header_write number))

theorem MapHeader.lt (header : MapHeader count piece) : count < 2 ^ 32 := by
  cases header with
  | fix small => exact Nat.lt_trans small (by decide)
  | two written => exact Nat.lt_trans written.lt (by decide)
  | four written => exact written.lt

theorem StrHeader.lt (header : StrHeader size piece) : size < 2 ^ 32 := by
  cases header with
  | fix small => exact Nat.lt_trans small (by decide)
  | one written => exact Nat.lt_trans written.lt (by decide)
  | two written => exact Nat.lt_trans written.lt (by decide)
  | four written => exact written.lt

theorem BinHeader.lt (header : BinHeader size piece) : size < 2 ^ 32 := by
  cases header with
  | one written => exact Nat.lt_trans written.lt (by decide)
  | two written => exact Nat.lt_trans written.lt (by decide)
  | four written => exact written.lt

/-! ## Shortest pieces -/

/-- A text behind the shortest header for the number of its bytes. -/
def ShortestStr : Form String := fun text piece =>
  ∃ header, Form.Shortest StrHeader (Text.Utf8.encode text).length header ∧
    piece = header ++ Text.Utf8.encode text

/-- A byte string behind the shortest header for its length. -/
def ShortestBin : Form Bytes := fun content piece =>
  ∃ header, Form.Shortest BinHeader content.length header ∧ piece = header ++ content

section

variable {family : Family} {header : Form Nat} (sound : family.Sound)
  (same : ∀ number piece, family.Header number piece ↔ header number piece)
include sound same

/-- The shortest header of a number that has one is what the family writes. -/
private theorem shortest_header_iff (stands : family.Header number other) :
    Form.Shortest header number piece ↔ piece = family.write number := by
  have equal : header = family.Header := by
    funext number piece
    exact propext (same number piece).symm
  rw [equal]
  exact Family.shortest_iff sound stands

/-- Content behind the shortest header for its length is what is written, if any header has room. -/
private theorem behind_shortest_iff (content : Bytes)
    (limit : ∀ front, header content.length front → content.length < 2 ^ 32)
    (room : content.length < 2 ^ 32 → family.Header content.length (family.write content.length)) :
    (∃ front, Form.Shortest header content.length front ∧ piece = front ++ content) ↔
      content.length < 2 ^ 32 ∧ piece = family.write (content.length % 2 ^ 32) ++ content := by
  constructor
  · intro given
    obtain ⟨front, shortest, rfl⟩ := given
    have fits := limit front shortest.1
    rw [(shortest_header_iff sound same (room fits)).mp shortest, Nat.mod_eq_of_lt fits]
    exact ⟨fits, rfl⟩
  · intro given
    obtain ⟨fits, rfl⟩ := given
    rw [Nat.mod_eq_of_lt fits]
    exact ⟨_, (shortest_header_iff sound same (room fits)).mpr rfl, rfl⟩

end

theorem shortest_unsigned {number : UInt64} :
    Form.Shortest Unsigned number.toNat piece ↔ piece = writeUInt number :=
  shortest_header_iff Family.uint_sound (fun _ _ => Family.uint_header) (uint_header_write number)

theorem shortestStr_iff : ShortestStr text piece ↔
    (Text.Utf8.encode text).length < 2 ^ 32 ∧ piece = writeStr text :=
  behind_shortest_iff Family.str_sound (fun _ _ => Family.str_header) (Text.Utf8.encode text)
    (fun _ header => header.lt) str_header_write

theorem shortestBin_iff : ShortestBin content piece ↔
    content.length < 2 ^ 32 ∧ piece = writeBin content :=
  behind_shortest_iff Family.bin_sound (fun _ _ => Family.bin_header) content
    (fun _ header => header.lt) bin_header_write

/-! ## Lengths -/

namespace Family

variable {family : Family}

/-- Where a number has a header, every smaller one has a header of the same length. -/
theorem Header.smaller (header : family.Header number piece) (le : less ≤ number) :
    ∃ other, family.Header less other ∧ other.length = piece.length := by
  cases header with
  | fix small => exact ⟨_, .fix (Nat.lt_of_le_of_lt le small), rfl⟩
  | @wide marker width _ digits listed written =>
    have room := Nat.lt_of_le_of_lt le written.lt
    refine ⟨_, .wide listed (digits_iff_eq_bigEndian.mpr ⟨room, rfl⟩), ?_⟩
    rw [List.length_cons, List.length_cons, length_bigEndian, written.length]

theorem length_write_le (sound : family.Sound) (header : family.Header number piece) :
    (family.write number).length ≤ piece.length :=
  ((shortest_iff sound header).mpr rfl).2 piece header

theorem length_write_mono (sound : family.Sound) (header : family.Header number piece)
    (le : less ≤ number) : (family.write less).length ≤ (family.write number).length := by
  obtain ⟨other, stands, same⟩ := (Header.write sound header).1.smaller le
  rw [← same]
  exact length_write_le sound stands

end Family

theorem length_writeUInt_mono {less number : UInt64} (le : less.toNat ≤ number.toNat) :
    (writeUInt less).length ≤ (writeUInt number).length :=
  Family.length_write_mono Family.uint_sound (uint_header_write number) le

theorem length_writeBin_mono {less content : Bytes} (le : less.length ≤ content.length)
    (fits : content.length < 2 ^ 32) : (writeBin less).length ≤ (writeBin content).length := by
  rw [writeBin_eq (Nat.lt_of_le_of_lt le fits), writeBin_eq fits, List.length_append, List.length_append]
  exact Nat.add_le_add (Family.length_write_mono Family.bin_sound (bin_header_write fits) le) le

theorem length_writeUInt_le_nine (number : UInt64) : (writeUInt number).length ≤ 9 := by
  have widest : Family.uint.Header number.toNat (0xcf :: bigEndian 8 number.toNat) :=
    .wide (by decide) (digits_iff_eq_bigEndian.mpr ⟨number.toNat_lt, rfl⟩)
  have least := Family.length_write_le Family.uint_sound widest
  rwa [List.length_cons, length_bigEndian] at least

theorem length_writeUInt_pos (number : UInt64) : 0 < (writeUInt number).length := by
  obtain ⟨marker, rest, _, same⟩ := (uint_header_write number).owned Family.uint_sound
  rw [same]
  exact Nat.succ_pos _

/-- An integer with a sign is no shorter than one without: its marker is as wide as another that has room
for the number. -/
private theorem length_write_le_of_signed {piece : Bytes} (signed : Signed number piece) :
    (Family.uint.write number).length ≤ piece.length := by
  have least {width : Nat} {digits : Bytes} (marker : UInt8) (listed : (marker, width) ∈ Family.uint.wide)
      (written : Digits width number digits) :
      (Family.uint.write number).length ≤ digits.length + 1 :=
    Family.length_write_le Family.uint_sound (.wide listed written)
  cases signed with
  | one _ written => exact least 0xcc (by decide) written
  | two _ written => exact least 0xcd (by decide) written
  | four _ written => exact least 0xce (by decide) written
  | eight _ written => exact least 0xcf (by decide) written

theorem MapHeader.length_le (header : MapHeader count piece) :
    (writeMap count).length ≤ piece.length := by
  rw [writeMap, Nat.mod_eq_of_lt header.lt]
  exact Family.length_write_le Family.map_sound (Family.map_header.mpr header)

theorem UIntForm.length_le (stands : UIntForm number piece) :
    (writeUInt number).length ≤ piece.length := by
  rcases stands with unsigned | signed
  · exact Family.length_write_le Family.uint_sound (Family.uint_header.mpr unsigned)
  · exact length_write_le_of_signed signed

theorem StrForm.length_le (stands : StrForm text piece) : (writeStr text).length ≤ piece.length := by
  obtain ⟨header, stands, rfl⟩ := stands
  rw [writeStr_eq stands.lt, List.length_append, List.length_append]
  exact Nat.add_le_add_right
    (Family.length_write_le Family.str_sound (Family.str_header.mpr stands)) _

theorem BinForm.length_le (stands : BinForm content piece) :
    (writeBin content).length ≤ piece.length := by
  obtain ⟨header, stands, rfl⟩ := stands
  rw [writeBin_eq stands.lt, List.length_append, List.length_append]
  exact Nat.add_le_add_right
    (Family.length_write_le Family.bin_sound (Family.bin_header.mpr stands)) _

end MessagePack

end WalletTools
