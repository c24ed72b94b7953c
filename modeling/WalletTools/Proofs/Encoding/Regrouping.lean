import WalletTools.Encoding.Symbols
import WalletTools.Proofs.Radix

/-! Bytes and symbols of another width hold the same bits, the most significant first. Where the last
byte ends within a symbol, zeros fill that symbol. Compared as numbers, symbols and bytes differ by a
power of two only, so either of them determines the other. -/
namespace WalletTools.Radix

/-! ## Digits of digits -/

theorem value_flatMap_digits {base width : Nat} {list : List Nat}
    (below : ∀ digit ∈ list, digit < base ^ width) :
    value base (list.flatMap (digits base width)) = value (base ^ width) list := by
  induction list with
  | nil => rfl
  | cons digit rest ih =>
    obtain ⟨first, later⟩ := List.forall_mem_cons.mp below
    rw [List.flatMap_cons, value_append, value_digits, length_digits, Nat.mod_eq_of_lt first, ih later,
      value]

theorem length_flatMap_digits (base width : Nat) (list : List Nat) :
    (list.flatMap (digits base width)).length = width * list.length := by
  induction list with
  | nil => rfl
  | cons digit rest ih =>
    rw [List.flatMap_cons, List.length_append, length_digits, ih, List.length_cons, Nat.mul_succ,
      Nat.add_comm]

theorem lt_of_mem_flatMap_digits {base width digit : Nat} {list : List Nat} (positive : 0 < base)
    (member : digit ∈ list.flatMap (digits base width)) : digit < base := by
  obtain ⟨_, _, part⟩ := List.mem_flatMap.mp member
  exact lt_of_mem_digits positive part

theorem value_zeros_append (base count : Nat) (list : List Nat) :
    value base (List.replicate count 0 ++ list) = base ^ count * value base list := by
  induction count with
  | zero => simp
  | succ count ih =>
    rw [List.replicate_succ, List.cons_append, value, ih, Nat.zero_add, Nat.pow_succ', Nat.mul_assoc]

/-! ## Bits -/

/-- The bits of a number, the most significant first. -/
def bitsOf (width number : Nat) : List Nat := (digits 2 width number).reverse

def byteBits (bytes : Bytes) : List Nat := bytes.flatMap fun byte => bitsOf 8 byte.toNat

/-- The bits of the symbols are those of the bytes, and zeros that fill the last symbol. -/
def Regroups (width : Nat) (symbols : List Nat) (bytes : Bytes) : Prop :=
  ∃ spare < width, symbols.flatMap (bitsOf width) = byteBits bytes ++ List.replicate spare 0

private theorem reverse_bits (width : Nat) (symbols : List Nat) :
    (symbols.flatMap (bitsOf width)).reverse = symbols.reverse.flatMap (digits 2 width) := by
  rw [List.reverse_flatMap]
  congr 1
  funext symbol
  exact List.reverse_reverse _

private theorem reverse_byteBits (bytes : Bytes) :
    (byteBits bytes).reverse = (bytes.reverse.map UInt8.toNat).flatMap (digits 2 8) := by
  have named : byteBits bytes = (bytes.map UInt8.toNat).flatMap (bitsOf 8) := by
    rw [List.flatMap_map]
    rfl
  rw [named, reverse_bits, List.map_reverse]

@[simp] theorem length_byteBits (bytes : Bytes) : (byteBits bytes).length = 8 * bytes.length := by
  rw [← List.length_reverse, reverse_byteBits, length_flatMap_digits]
  simp

variable {width spare : Nat} {symbols : List Nat} {bytes : Bytes}

/-- Symbols and bytes have the same bits where their numbers differ by the zeros behind the bytes. -/
theorem bits_eq_iff (below : ∀ symbol ∈ symbols, symbol < 2 ^ width) :
    symbols.flatMap (bitsOf width) = byteBits bytes ++ List.replicate spare 0 ↔
      width * symbols.length = 8 * bytes.length + spare ∧
        value (2 ^ width) symbols.reverse = 2 ^ spare * ofBytes bytes.reverse := by
  have symbolsBelow : ∀ symbol ∈ symbols.reverse, symbol < 2 ^ width := fun symbol member =>
    below symbol (List.mem_reverse.mp member)
  have bytesBelow : ∀ digit ∈ bytes.reverse.map UInt8.toNat, digit < 2 ^ 8 := by
    intro digit member
    obtain ⟨byte, _, rfl⟩ := List.mem_map.mp member
    exact byte.toNat_lt
  have left : value 2 (symbols.reverse.flatMap (digits 2 width)) = value (2 ^ width) symbols.reverse :=
    value_flatMap_digits symbolsBelow
  have right : value 2 (List.replicate spare 0 ++
      (bytes.reverse.map UInt8.toNat).flatMap (digits 2 8)) = 2 ^ spare * ofBytes bytes.reverse := by
    rw [value_zeros_append, value_flatMap_digits bytesBelow]
    rfl
  rw [← List.reverse_inj, reverse_bits, List.reverse_append, List.reverse_replicate, reverse_byteBits,
    ← left, ← right]
  constructor
  · intro same
    rw [same]
    refine ⟨?_, rfl⟩
    have lengths := congrArg List.length same
    rw [List.length_append, length_flatMap_digits, length_flatMap_digits] at lengths
    simp only [List.length_reverse, List.length_replicate, List.length_map] at lengths
    omega
  · intro given
    obtain ⟨length, same⟩ := given
    refine value_injective (fun _ => lt_of_mem_flatMap_digits (by decide)) ?_ ?_ same
    · intro digit member
      rcases List.mem_append.mp member with zero | part
      · rw [List.eq_of_mem_replicate zero]
        decide
      · exact lt_of_mem_flatMap_digits (by decide) part
    · rw [List.length_append, length_flatMap_digits, length_flatMap_digits]
      simp only [List.length_reverse, List.length_replicate, List.length_map]
      omega

/-! ## Symbols of bytes -/

@[simp] theorem length_regroup (width : Nat) (bytes : Bytes) :
    (regroup width bytes).length = symbolCount width bytes.length := by
  simp [regroup]

theorem lt_of_mem_regroup {symbol : Nat} (member : symbol ∈ regroup width bytes) :
    symbol < 2 ^ width :=
  lt_of_mem_digits (Nat.two_pow_pos width) (List.mem_reverse.mp member)

private theorem symbolCount_bounds (positive : 0 < width) (count : Nat) :
    8 * count ≤ width * symbolCount width count ∧
      width * symbolCount width count < 8 * count + width := by
  have whole := Nat.div_add_mod (8 * count + (width - 1)) width
  have rest := Nat.mod_lt (8 * count + (width - 1)) positive
  unfold symbolCount
  omega

private theorem symbolCount_eq (small : spare < width) (length : width * count = 8 * size + spare) :
    count = symbolCount width size := by
  have positive : 0 < width := Nat.lt_of_le_of_lt (Nat.zero_le _) small
  obtain ⟨low, high⟩ := symbolCount_bounds positive size
  rcases Nat.lt_trichotomy count (symbolCount width size) with less | same | more
  · have := Nat.mul_le_mul_left width less
    rw [Nat.mul_succ] at this
    omega
  · exact same
  · have := Nat.mul_le_mul_left width more
    rw [Nat.mul_succ] at this
    omega

private theorem padded_lt (bytes : Bytes) (length : total = 8 * bytes.length + spare) :
    2 ^ spare * ofBytes bytes.reverse < 2 ^ total := by
  have bytesFit := ofBytes_lt bytes.reverse
  rw [List.length_reverse, show 256 = 2 ^ 8 by decide, ← Nat.pow_mul] at bytesFit
  rw [length, Nat.add_comm, Nat.pow_add]
  exact Nat.mul_lt_mul_of_pos_left bytesFit (Nat.two_pow_pos spare)

/-- Bytes have one list of symbols. -/
theorem regroups_iff (positive : 0 < width) (below : ∀ symbol ∈ symbols, symbol < 2 ^ width) :
    Regroups width symbols bytes ↔ symbols = regroup width bytes := by
  obtain ⟨low, high⟩ := symbolCount_bounds positive bytes.length
  obtain ⟨filled, length⟩ := Nat.exists_eq_add_of_le low
  have written : value (2 ^ width) (regroup width bytes).reverse =
      2 ^ filled * ofBytes bytes.reverse := by
    rw [regroup, List.reverse_reverse, value_digits, Nat.mul_comm, length, Nat.add_sub_cancel_left,
      Nat.mod_eq_of_lt]
    rw [← Nat.pow_mul]
    exact padded_lt bytes length
  constructor
  · intro stands
    obtain ⟨spare, small, same⟩ := stands
    obtain ⟨sized, valued⟩ := (bits_eq_iff below).mp same
    have counted := symbolCount_eq small sized
    have unused : spare = filled := by
      rw [counted] at sized
      omega
    rw [unused, ← written] at valued
    apply List.reverse_inj.mp
    apply value_injective (fun symbol member => below symbol (List.mem_reverse.mp member))
      (fun symbol member => lt_of_mem_regroup (List.mem_reverse.mp member)) ?_ valued
    rw [List.length_reverse, List.length_reverse, counted, length_regroup]
  · intro same
    subst same
    refine ⟨filled, by omega, (bits_eq_iff below).mpr ⟨?_, written⟩⟩
    rw [length_regroup]
    exact length

/-- Bytes are taken from the number of their symbols, of which the spare bits have to be zero. -/
private theorem taken_iff (below : ∀ symbol ∈ symbols, symbol < 2 ^ width)
    (length : width * symbols.length = 8 * count + spare) :
    (value (2 ^ width) symbols.reverse % 2 ^ spare = 0 ∧
      bytes = (toBytes count (value (2 ^ width) symbols.reverse / 2 ^ spare)).reverse) ↔
        bytes.length = count ∧
          symbols.flatMap (bitsOf width) = byteBits bytes ++ List.replicate spare 0 := by
  rw [bits_eq_iff below]
  constructor
  · intro given
    obtain ⟨even, rfl⟩ := given
    have small : value (2 ^ width) symbols.reverse < 2 ^ spare * 256 ^ count := by
      have bound := value_lt symbols.reverse
        fun symbol member => below symbol (List.mem_reverse.mp member)
      rw [List.length_reverse, ← Nat.pow_mul, length, Nat.add_comm, Nat.pow_add, Nat.pow_mul] at bound
      exact bound
    refine ⟨by simp, by simpa using length, ?_⟩
    rw [List.reverse_reverse, ofBytes_toBytes, Nat.mod_eq_of_lt (Nat.div_lt_of_lt_mul small),
      Nat.mul_div_cancel' (Nat.dvd_of_mod_eq_zero even)]
  · intro given
    obtain ⟨sized, _, same⟩ := given
    rw [same, Nat.mul_mod_right, Nat.mul_div_cancel_left _ (Nat.two_pow_pos spare), ← sized,
      ← List.length_reverse, toBytes_ofBytes, List.reverse_reverse]
    exact ⟨rfl, rfl⟩

/-- Symbols are read as the bytes that have their bits, up to fewer zeros than a byte has bits. -/
theorem ungroup?_eq_some_iff (below : ∀ symbol ∈ symbols, symbol < 2 ^ width) :
    ungroup? width symbols = some bytes ↔
      ∃ spare < 8, symbols.flatMap (bitsOf width) = byteBits bytes ++ List.replicate spare 0 := by
  have length : width * symbols.length = 8 * byteCount width symbols.length +
      (width * symbols.length - 8 * byteCount width symbols.length) := by
    unfold byteCount
    omega
  unfold ungroup?
  rw [Option.ite_none_right_eq_some, Option.some.injEq, eq_comm (b := bytes), taken_iff below length]
  constructor
  · intro given
    refine ⟨_, ?_, given.2⟩
    unfold byteCount
    omega
  · intro given
    obtain ⟨spare, small, same⟩ := given
    have sized := ((bits_eq_iff below).mp same).1
    have counted : bytes.length = byteCount width symbols.length := by
      unfold byteCount
      omega
    have filled : width * symbols.length - 8 * byteCount width symbols.length = spare := by omega
    rw [filled]
    exact ⟨counted, same⟩

end WalletTools.Radix
