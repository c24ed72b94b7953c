import WalletTools.Radix

/-! Digits and their value, in both directions: a number below a power of the base is the value of its
digits, and digits below the base are those of their value. -/
namespace WalletTools.Radix

theorem value_append (base : Nat) (front back : List Nat) :
    value base (front ++ back) = value base front + base ^ front.length * value base back := by
  induction front with
  | nil => simp [value]
  | cons digit rest ih =>
    simp only [List.cons_append, value, List.length_cons, ih, Nat.pow_succ']
    rw [Nat.mul_add, Nat.mul_assoc, Nat.add_assoc]

theorem value_lt {base : Nat} (list : List Nat) (below : ∀ digit ∈ list, digit < base) :
    value base list < base ^ list.length := by
  cases list with
  | nil => exact Nat.one_pos
  | cons digit rest =>
    have positive : 0 < base := Nat.lt_of_le_of_lt (Nat.zero_le _) (below digit List.mem_cons_self)
    have kept := value_digits base (digit :: rest).length (value base (digit :: rest))
    rw [digits_value _ below] at kept
    rw [kept]
    exact Nat.mod_lt _ (Nat.pow_pos positive)

/-- Digits below the base are determined by their number and their value. -/
theorem value_injective {base : Nat} {left right : List Nat} (leftBelow : ∀ digit ∈ left, digit < base)
    (rightBelow : ∀ digit ∈ right, digit < base) (length : left.length = right.length)
    (same : value base left = value base right) : left = right := by
  rw [← digits_value left leftBelow, ← digits_value right rightBelow, length, same]

/-- The last digit alone decides whether a number reaches a multiple of that digit's place. -/
theorem mul_le_value_iff {base : Nat} {front : List Nat} (below : ∀ digit ∈ front, digit < base)
    (last count : Nat) : base ^ front.length * count ≤ value base (front ++ [last]) ↔ count ≤ last := by
  have small := value_lt front below
  rw [value_append, value, value, Nat.mul_zero, Nat.add_zero]
  constructor
  · intro reached
    refine Nat.le_of_not_lt fun less => ?_
    have next : base ^ front.length * (last + 1) ≤ base ^ front.length * count :=
      Nat.mul_le_mul_left _ less
    rw [Nat.mul_succ] at next
    omega
  · intro enough
    have := Nat.mul_le_mul_left (base ^ front.length) enough
    omega

/-! ## Bytes -/

private theorem byte_lt (bytes : Bytes) : ∀ digit ∈ bytes.map UInt8.toNat, digit < 256 := by
  intro digit member
  obtain ⟨byte, _, rfl⟩ := List.mem_map.mp member
  exact byte.toNat_lt

theorem ofBytes_append (front back : Bytes) :
    ofBytes (front ++ back) = ofBytes front + 256 ^ front.length * ofBytes back := by
  simp [ofBytes, value_append]

theorem ofBytes_lt (bytes : Bytes) : ofBytes bytes < 256 ^ bytes.length := by
  simpa [ofBytes] using value_lt _ (byte_lt bytes)

theorem mul_le_ofBytes_iff (front : Bytes) (last : UInt8) (count : Nat) :
    256 ^ front.length * count ≤ ofBytes (front ++ [last]) ↔ count ≤ last.toNat := by
  simpa [ofBytes] using mul_le_value_iff (byte_lt front) last.toNat count

theorem ofBytes_injective {left right : Bytes} (length : left.length = right.length)
    (same : ofBytes left = ofBytes right) : left = right := by
  have digits := value_injective (byte_lt left) (byte_lt right) (by simpa using length) same
  exact (List.map_inj_right fun _ _ => UInt8.toNat_inj.mp).mp digits

theorem ofBytes_toBytes (width number : Nat) : ofBytes (toBytes width number) = number % 256 ^ width := by
  have kept : (toBytes width number).map UInt8.toNat = digits 256 width number := by
    rw [toBytes, List.map_map]
    refine (List.map_congr_left fun digit member => ?_).trans (List.map_id _)
    exact UInt8.toNat_ofNat_of_lt' (lt_of_mem_digits (by decide) member)
  rw [ofBytes, kept, value_digits]

theorem toBytes_ofBytes (bytes : Bytes) : toBytes bytes.length (ofBytes bytes) = bytes := by
  apply ofBytes_injective (length_toBytes _ _)
  rw [ofBytes_toBytes, Nat.mod_eq_of_lt (ofBytes_lt bytes)]

end WalletTools.Radix
