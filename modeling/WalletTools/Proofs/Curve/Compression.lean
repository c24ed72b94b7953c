import Mathlib.NumberTheory.LegendreSymbol.Basic
import WalletTools.Proofs.Curve.Edwards
import WalletTools.Proofs.Radix

/-! The bytes of a point. What a point is written as depends only on the point of the group that it stands
for, and is read back as a point that stands for the same. -/
namespace WalletTools.Curve.Edwards

/-- The bytes that write a point of the curve. -/
def encode (affine : curve.Affine) : FixedBytes 32 :=
  ⟨Radix.toBytes 32 (affine.y.val + 2 ^ 255 * (affine.x.val % 2)), Radix.length_toBytes ..⟩

theorem eq_val_of_cast_eq {number : Nat} {residue : Residue} (below : number < fieldPrime)
    (same : (number : Residue) = residue) : number = residue.val := by
  rw [← same, ZMod.val_cast_of_lt below]

variable {point : Point} {affine : curve.Affine}

theorem Point.Represents.compress_eq (stands : point.Represents affine) : point.compress = encode affine := by
  have scale : (Modular.inverse fieldPrime point.z : Residue) = (point.z : Residue)⁻¹ :=
    Modular.cast_inverse (by decide) point.z
  have x : Edwards.mul point.x (Modular.inverse fieldPrime point.z) = affine.x.val :=
    eq_val_of_cast_eq mul_lt (by rw [cast_mul, scale, stands.x_eq, mul_inv_cancel_right₀ stands.z_ne_zero])
  have y : Edwards.mul point.y (Modular.inverse fieldPrime point.z) = affine.y.val :=
    eq_val_of_cast_eq mul_lt (by rw [cast_mul, scale, stands.y_eq, mul_inv_cancel_right₀ stands.z_ne_zero])
  unfold Point.compress encode
  simp only [x, y]

/-! ## Square roots -/

/-- The even one of a residue and its negation. -/
def evened (root : Nat) : Nat := if root % 2 = 0 then root else sub 0 root

/-- The even one of two numbers that are the same up to a sign. -/
structure EvenRoot (root : Residue) (found : Nat) : Prop where
  below : found < fieldPrime
  even : found % 2 = 0
  same : (found : Residue) = root ∨ (found : Residue) = -root

theorem sub_zero_eq {number : Nat} (positive : 0 < number) (below : number < fieldPrime) :
    sub 0 number = fieldPrime - number := by
  rw [sub, Modular.sub, Nat.zero_add, Nat.mod_eq_of_lt (by omega)]

/-- The prime is odd, so that one of two numbers that add up to it is even. -/
theorem evenRoot_evened {root : Residue} {number : Nat} (below : number < fieldPrime)
    (square : (number : Residue) * number = root * root) : EvenRoot root (evened number) := by
  have same := mul_self_eq_mul_self_iff.mp square
  unfold evened
  split
  case isTrue even => exact ⟨below, even, same⟩
  case isFalse odd =>
    have positive : 0 < number := by omega
    have oddPrime : fieldPrime % 2 = 1 := by decide
    refine ⟨sub_lt, ?_, ?_⟩
    · rw [sub_zero_eq positive below]
      omega
    · rw [cast_sub below, Nat.cast_zero, zero_sub, neg_eq_iff_eq_neg, neg_inj]
      exact same.symm

/-- The square of the guess is that of the root, up to the sign: it is that of the root times half a power
by the order of the residues. -/
theorem guess_square {denominator : Residue} (root : Residue) (nonzero : denominator ≠ 0) :
    let guess := root * root * denominator * denominator ^ 3 *
      (root * root * denominator * denominator ^ 7) ^ ((fieldPrime - 5) / 8)
    guess * guess = root * root ∨ guess * guess = -(root * root) := by
  have eighth : fieldPrime / 2 = 4 * ((fieldPrime - 5) / 8) + 2 := by decide
  intro guess
  have square : guess * guess = root * root * (root * denominator ^ 4) ^ (fieldPrime / 2) := by
    rw [eighth]
    ring
  by_cases zero : root = 0
  · rw [square, zero, zero_mul, zero_mul]
    exact .inl rfl
  · rcases ZMod.pow_div_two_eq_neg_one_or_one fieldPrime (mul_ne_zero zero (pow_ne_zero 4 nonzero)) with
      half | half
    · rw [square, half, mul_one]
      exact .inl rfl
    · rw [square, half, mul_neg_one]
      exact .inr rfl

/-- A ratio of which there is a square root has one that is found. -/
theorem exists_squareRoot? {numerator denominator : Nat} {root : Residue}
    (below : numerator < fieldPrime) (nonzero : (denominator : Residue) ≠ 0)
    (ratio : (numerator : Residue) = root * root * denominator) :
    ∃ found, squareRoot? numerator denominator = some found ∧ EvenRoot root found := by
  unfold squareRoot?
  dsimp only
  generalize known : mul (mul numerator _) (Modular.pow fieldPrime _ _) = guess
  have cast : (guess : Residue) = root * root * denominator * denominator ^ 3 *
      (root * root * denominator * denominator ^ 7) ^ ((fieldPrime - 5) / 8) := by
    rw [← known]
    simp only [cast_mul, Modular.cast_pow, ratio]
    ring
  have guessBelow : guess < fieldPrime := known ▸ mul_lt
  have square : (mul denominator (mul guess guess) : Residue) = denominator * (guess * guess) := by
    rw [cast_mul, cast_mul]
  have same_iff : mul denominator (mul guess guess) = numerator ↔
      (guess : Residue) * guess = root * root := by
    rw [← cast_inj mul_lt below, square, ratio, mul_comm, mul_left_inj' nonzero]
  by_cases same : mul denominator (mul guess guess) = numerator
  · rw [if_pos same]
    exact ⟨evened guess, rfl, evenRoot_evened guessBelow (same_iff.mp same)⟩
  · rw [if_neg same]
    have minus : (guess : Residue) * guess = -(root * root) := by
      rw [same_iff, cast] at same
      rw [cast]
      exact (guess_square root nonzero).resolve_left same
    have negated : mul denominator (mul guess guess) = sub 0 numerator := by
      rw [← cast_inj mul_lt sub_lt, square, minus, cast_sub below, ratio, Nat.cast_zero]
      ring
    rw [if_pos negated]
    refine ⟨evened (mul guess rootOfMinusOne), rfl, evenRoot_evened mul_lt ?_⟩
    have unit := root_mul_root
    rw [cast_mul]
    linear_combination (rootOfMinusOne * rootOfMinusOne : Residue) * minus - root * root * unit

/-! ## Reading a point back -/

theorem denominator_ne_zero (affine : curve.Affine) :
    curve.coefficient * (affine.y * affine.y) + 1 ≠ 0 := by
  intro zero
  have nonzero : affine.y ≠ 0 := by
    intro none
    rw [none] at zero
    simp at zero
  apply curve.not_square (curve.root / affine.y)
  rw [div_mul_div_comm, curve.root_mul_root, div_eq_iff (mul_ne_zero nonzero nonzero)]
  linear_combination -zero

/-- The even root and the parity that is written tell the abscissa. -/
theorem EvenRoot.signed_eq {root : Residue} {found : Nat} (even : EvenRoot root found) :
    (if root.val % 2 = 1 then sub 0 found else found) = root.val := by
  obtain ⟨below, half, same | same⟩ := even
  · obtain rfl := eq_val_of_cast_eq below same
    rw [if_neg (by omega)]
  rcases Nat.eq_zero_or_pos found with rfl | positive
  · rw [Nat.cast_zero, zero_eq_neg] at same
    rw [same, ZMod.val_zero, if_neg (by decide)]
  · have other : fieldPrime - found = root.val := by
      apply eq_val_of_cast_eq (by omega)
      rw [Nat.cast_sub below.le, ZMod.natCast_self, same, zero_sub, neg_neg]
    have oddPrime : fieldPrime % 2 = 1 := by decide
    rw [if_pos (by omega), sub_zero_eq positive below, other]

/-- What is written as the bytes of a point is read back. -/
theorem exists_decompress? (affine : curve.Affine) :
    ∃ point, Point.decompress? (encode affine) = some point ∧ point.Represents affine := by
  have yBelow : affine.y.val < fieldPrime := ZMod.val_lt _
  have primeBelow : fieldPrime < 2 ^ 255 := by decide
  have parity : affine.x.val % 2 < 2 := Nat.mod_lt _ (by decide)
  have number : Radix.ofBytes (encode affine).toList = affine.y.val + 2 ^ 255 * (affine.x.val % 2) := by
    rw [encode, Radix.ofBytes_toBytes, Nat.mod_eq_of_lt]
    omega
  have y : (affine.y.val + 2 ^ 255 * (affine.x.val % 2)) % 2 ^ 255 % fieldPrime = affine.y.val := by
    rw [Nat.add_mul_mod_self_left, Nat.mod_eq_of_lt (yBelow.trans primeBelow), Nat.mod_eq_of_lt yBelow]
  have sign : (affine.y.val + 2 ^ 255 * (affine.x.val % 2)) / 2 ^ 255 = affine.x.val % 2 := by
    rw [Nat.add_mul_div_left _ _ (by decide), Nat.div_eq_of_lt (yBelow.trans primeBelow), Nat.zero_add]
  have square : (mul affine.y.val affine.y.val : Residue) = affine.y * affine.y := by
    rw [cast_mul, ZMod.natCast_zmod_val]
  have numerator : (sub (mul affine.y.val affine.y.val) 1 : Residue) = affine.y * affine.y - 1 := by
    rw [cast_sub (by decide), square, Nat.cast_one]
  have denominator : (Edwards.add (mul coefficient (mul affine.y.val affine.y.val)) 1 : Residue) =
      curve.coefficient * (affine.y * affine.y) + 1 := by
    rw [cast_add, cast_mul, square, Nat.cast_one, curve_coefficient]
  have ratio : (sub (mul affine.y.val affine.y.val) 1 : Residue) = affine.x * affine.x *
      (Edwards.add (mul coefficient (mul affine.y.val affine.y.val)) 1 : Nat) := by
    rw [numerator, denominator]
    linear_combination affine.on
  obtain ⟨found, root, even⟩ := exists_squareRoot? sub_lt
    (ne_of_eq_of_ne denominator (denominator_ne_zero affine)) ratio
  refine ⟨Point.ofAffine affine.x.val affine.y.val, ?_, Point.represents_ofAffine (ZMod.val_lt _) yBelow
    (ZMod.natCast_zmod_val _) (ZMod.natCast_zmod_val _)⟩
  unfold Point.decompress?
  simp only [number, y, sign, root, Option.bind_eq_bind, Option.bind_some, even.signed_eq]
  rfl

end WalletTools.Curve.Edwards
