import WalletTools.Text.Charset

/-! Texts in UTF-16: a text that is written in either order of the bytes is read back, and behind a mark it
is read back in every charset. -/
namespace WalletTools.Text

namespace Utf16

/-- The two bytes of a unit. -/
def Order.bytes (unit : Nat) : Order → Bytes
  | .little => [UInt8.ofNat unit, UInt8.ofNat (unit / 256)]
  | .big => [UInt8.ofNat (unit / 256), UInt8.ofNat unit]

/-- The units of a character: itself, or a pair for what is above them. -/
def unitsOf (char : Char) : List Nat :=
  if char.toNat < 0x10000 then [char.toNat]
  else [0xd800 + (char.toNat - 0x10000) / 0x400, 0xdc00 + (char.toNat - 0x10000) % 0x400]

def encode (order : Order) (text : String) : Bytes :=
  (text.toList.flatMap unitsOf).flatMap (order.bytes ·)

/-- The bytes that mark a text in UTF-16. -/
def Order.mark : Order → Bytes
  | .little => [0xff, 0xfe]
  | .big => [0xfe, 0xff]

/-- No character stands where the units of pairs are. -/
theorem toNat_bounds (char : Char) :
    char.toNat < 0xd800 ∨ 0xdfff < char.toNat ∧ char.toNat < 0x110000 := char.valid

theorem lt_of_mem_unitsOf {char : Char} {unit : Nat} (member : unit ∈ unitsOf char) : unit < 0x10000 := by
  have bounds := toNat_bounds char
  unfold unitsOf at member
  split at member
  · obtain rfl := List.mem_singleton.mp member
    assumption
  · simp only [List.mem_cons, List.not_mem_nil, or_false] at member
    omega

theorem unit_bytes (order : Order) {unit : Nat} (small : unit < 0x10000) :
    ∃ first second, order.bytes unit = [first, second] ∧ order.unit first second = unit := by
  have low : (UInt8.ofNat unit).toNat = unit % 256 := UInt8.toNat_ofNat'
  have high : (UInt8.ofNat (unit / 256)).toNat = unit / 256 := by
    rw [UInt8.toNat_ofNat', Nat.mod_eq_of_lt (by omega)]
  cases order with
  | little =>
    refine ⟨_, _, rfl, ?_⟩
    rw [Order.unit, low, high]
    omega
  | big =>
    refine ⟨_, _, rfl, ?_⟩
    rw [Order.unit, low, high]
    omega

theorem units_bytes (order : Order) {list : List Nat} (below : ∀ unit ∈ list, unit < 0x10000) :
    units order (list.flatMap (order.bytes ·)) = (list, false) := by
  induction list with
  | nil => rfl
  | cons unit rest ih =>
    obtain ⟨small, later⟩ := List.forall_mem_cons.mp below
    obtain ⟨first, second, written, read⟩ := unit_bytes order small
    rw [List.flatMap_cons, written, List.cons_append, List.cons_append, List.nil_append, units, ih later,
      read]

theorem characters_unitsOf (char : Char) (rest : List Nat) :
    characters false (unitsOf char ++ rest) = char :: characters false rest := by
  have bounds := toNat_bounds char
  unfold unitsOf
  split
  · have single : isTrail char.toNat = false ∧ isLead char.toNat = false := by
      simp only [isTrail, isLead, Bool.and_eq_false_iff, decide_eq_false_iff_not]
      omega
    rw [List.singleton_append, characters.eq_def]
    simp only [single, Bool.false_eq_true, if_false, Char.ofNat_toNat]
  · have lead : isTrail (0xd800 + (char.toNat - 0x10000) / 0x400) = false ∧
        isLead (0xd800 + (char.toNat - 0x10000) / 0x400) = true := by
      simp only [isTrail, isLead, Bool.and_eq_false_iff, Bool.and_eq_true, decide_eq_false_iff_not,
        decide_eq_true_eq]
      omega
    have trail : isTrail (0xdc00 + (char.toNat - 0x10000) % 0x400) = true := by
      simp only [isTrail, Bool.and_eq_true, decide_eq_true_eq]
      omega
    have whole : paired (0xd800 + (char.toNat - 0x10000) / 0x400)
        (0xdc00 + (char.toNat - 0x10000) % 0x400) = char := by
      have sum : 0x10000 + 0x400 * (0xd800 + (char.toNat - 0x10000) / 0x400 - 0xd800) +
          (0xdc00 + (char.toNat - 0x10000) % 0x400 - 0xdc00) = char.toNat := by omega
      rw [paired, sum, Char.ofNat_toNat]
    rw [List.cons_append, List.singleton_append, characters.eq_def]
    simp only [lead, trail, whole, Bool.false_eq_true, if_false, if_true]

theorem characters_flatMap_unitsOf (list : List Char) :
    characters false (list.flatMap unitsOf) = list := by
  induction list with
  | nil => rfl
  | cons char rest ih => rw [List.flatMap_cons, characters_unitsOf, ih]

theorem decodeReplacing_encode (order : Order) (text : String) :
    decodeReplacing order (encode order text) = text := by
  have below : ∀ unit ∈ text.toList.flatMap unitsOf, unit < 0x10000 := by
    intro unit member
    obtain ⟨char, _, part⟩ := List.mem_flatMap.mp member
    exact lt_of_mem_unitsOf part
  rw [decodeReplacing, encode, units_bytes order below]
  dsimp only
  rw [characters_flatMap_unitsOf, String.ofList_toList]

end Utf16

/-- A text in UTF-16 is read back from behind its mark, whatever charset is told. -/
theorem Charset.decodeMarked_encode (charset : Charset) (order : Utf16.Order) (text : String) :
    charset.decodeMarked (order.mark ++ Utf16.encode order text) = text := by
  cases order with
  | little => exact Utf16.decodeReplacing_encode .little text
  | big => exact Utf16.decodeReplacing_encode .big text

end WalletTools.Text
