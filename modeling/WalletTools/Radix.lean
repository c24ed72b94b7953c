import WalletTools.Bytes

/-! Positional notation: the digits of a number in a base, least significant digit first, in a
width fixed beforehand. Writing and reading undo each other on digits below the base. -/
namespace WalletTools.Radix

/-- The number that digits denote, the first digit being the least significant. -/
def value (base : Nat) : List Nat → Nat
  | [] => 0
  | digit :: rest => digit + base * value base rest

/-- The `width` least significant digits of a number. -/
def digits (base : Nat) : (width : Nat) → Nat → List Nat
  | 0, _ => []
  | width + 1, number => number % base :: digits base width (number / base)

@[simp] theorem length_digits (base width number : Nat) :
    (digits base width number).length = width := by
  induction width generalizing number with
  | zero => rfl
  | succ width ih => simp [digits, ih]

/-- Reading keeps what fits the width. -/
theorem value_digits (base width number : Nat) :
    value base (digits base width number) = number % base ^ width := by
  induction width generalizing number with
  | zero => simp [digits, value, Nat.mod_one]
  | succ width ih => rw [digits, value, ih, Nat.pow_succ', Nat.mod_mul]

/-- Every digit is below the base. -/
theorem lt_of_mem_digits {base width number digit : Nat} (positive : 0 < base)
    (member : digit ∈ digits base width number) : digit < base := by
  induction width generalizing number with
  | zero => simp [digits] at member
  | succ width ih =>
    rcases List.mem_cons.1 member with rfl | later
    · exact Nat.mod_lt _ positive
    · exact ih later

/-- A digit string below the base is recovered from its value. -/
theorem digits_value {base : Nat} (list : List Nat) (below : ∀ digit ∈ list, digit < base) :
    digits base list.length (value base list) = list := by
  induction list with
  | nil => rfl
  | cons digit rest ih =>
    have small : digit < base := below digit List.mem_cons_self
    have positive : 0 < base := Nat.lt_of_le_of_lt (Nat.zero_le _) small
    have head : (digit + base * value base rest) % base = digit := by
      rw [Nat.add_mul_mod_self_left, Nat.mod_eq_of_lt small]
    have tail : (digit + base * value base rest) / base = value base rest := by
      rw [Nat.add_mul_div_left _ _ positive, Nat.div_eq_of_lt small, Nat.zero_add]
    simp only [List.length_cons, digits, value, head, tail]
    rw [ih fun other member => below other (List.mem_cons_of_mem _ member)]

/-- The number that bytes denote, least significant byte first. -/
def ofBytes (bytes : Bytes) : Nat := value 256 (bytes.map UInt8.toNat)

/-- The `width` least significant bytes of a number. -/
def toBytes (width number : Nat) : Bytes := (digits 256 width number).map UInt8.ofNat

@[simp] theorem length_toBytes (width number : Nat) : (toBytes width number).length = width := by
  simp [toBytes]

end WalletTools.Radix
