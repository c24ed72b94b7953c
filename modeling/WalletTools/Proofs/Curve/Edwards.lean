import WalletTools.Proofs.Curve.Group
import WalletTools.Proofs.Curve.Prime

/-! The points that are computed with. In projective coordinates a point stands for one of the group, which
adding, negating and multiplying keep to. -/
namespace WalletTools.Curve.Edwards

/-- The residues that coordinates are. -/
abbrev Residue := ZMod fieldPrime

section

variable {left right : Nat}

theorem sub_lt : sub left right < fieldPrime := Modular.sub_lt (by decide)
theorem mul_lt : mul left right < fieldPrime := Modular.mul_lt (by decide)

theorem pow_lt {base exponent : Nat} : Modular.pow fieldPrime base exponent < fieldPrime := by
  rw [Modular.pow_eq]
  exact Nat.mod_lt _ (by decide)

@[simp] theorem cast_add : (add left right : Residue) = left + right := Modular.cast_add
@[simp] theorem cast_mul : (mul left right : Residue) = left * right := Modular.cast_mul

theorem cast_sub (below : right < fieldPrime) : (sub left right : Residue) = left - right :=
  Modular.cast_sub below.le

theorem cast_inj (leftBelow : left < fieldPrime) (rightBelow : right < fieldPrime) :
    (left : Residue) = right ↔ left = right := by
  rw [ZMod.natCast_eq_natCast_iff', Nat.mod_eq_of_lt leftBelow, Nat.mod_eq_of_lt rightBelow]

end

/-! ## The curve -/

theorem root_mul_root : (rootOfMinusOne : Residue) * rootOfMinusOne = -1 := by
  have square : mul rootOfMinusOne rootOfMinusOne = sub 0 1 := by decide +kernel
  rw [← cast_mul, square, cast_sub (by decide)]
  norm_num

/-- The power of a square by half the order of the residues is one, and that of the coefficient is not. -/
theorem coefficient_not_square (number : Residue) : number * number ≠ coefficient := by
  intro square
  have power : Modular.pow fieldPrime coefficient ((fieldPrime - 1) / 2) ≠ 1 := by decide +kernel
  have nonzero : number ≠ 0 := by
    rintro rfl
    rw [zero_mul, ← Nat.cast_zero, cast_inj (by decide) (by decide)] at square
    revert square
    decide
  have half : (fieldPrime - 1) / 2 + (fieldPrime - 1) / 2 = fieldPrime - 1 := by decide
  apply power
  rw [← cast_inj pow_lt (by decide), Modular.cast_pow, ← square, mul_pow, ← pow_add, half,
    ZMod.pow_card_sub_one_eq_one nonzero, Nat.cast_one]

theorem two_ne_zero : (2 : Residue) ≠ 0 := by
  rw [← Nat.cast_ofNat, ← Nat.cast_zero, ne_eq, cast_inj (by decide) (by decide)]
  decide

/-- The curve of the points. -/
def curve : Twist Residue where
  coefficient := coefficient
  root := rootOfMinusOne
  root_mul_root := root_mul_root
  not_square := coefficient_not_square
  two_ne_zero := two_ne_zero

theorem curve_coefficient : curve.coefficient = coefficient := rfl

/-! ## Points -/

/-- A point in projective coordinates stands for a point of the curve. -/
structure Point.Represents (point : Point) (affine : curve.Affine) : Prop where
  x_lt : point.x < fieldPrime
  y_lt : point.y < fieldPrime
  t_lt : point.t < fieldPrime
  z_ne_zero : (point.z : Residue) ≠ 0
  x_eq : (point.x : Residue) = affine.x * point.z
  y_eq : (point.y : Residue) = affine.y * point.z
  t_eq : (point.t : Residue) = affine.x * affine.y * point.z

namespace Point

theorem represents_zero : Point.zero.Represents 0 where
  x_lt := by decide
  y_lt := by decide
  t_lt := by decide
  z_ne_zero := by simp [Point.zero]
  x_eq := by simp [Point.zero]
  y_eq := by simp [Point.zero]
  t_eq := by simp [Point.zero]

theorem represents_ofAffine {x y : Nat} (xBelow : x < fieldPrime) (yBelow : y < fieldPrime)
    {affine : curve.Affine} (xSame : (x : Residue) = affine.x) (ySame : (y : Residue) = affine.y) :
    (Point.ofAffine x y).Represents affine where
  x_lt := xBelow
  y_lt := yBelow
  t_lt := mul_lt
  z_ne_zero := by simp [Point.ofAffine]
  x_eq := by simp [Point.ofAffine, xSame]
  y_eq := by simp [Point.ofAffine, ySame]
  t_eq := by simp [Point.ofAffine, xSame, ySame]

variable {point left right : Point} {affine other : curve.Affine}

theorem Represents.neg (stands : point.Represents affine) : point.neg.Represents (-affine) where
  x_lt := sub_lt
  y_lt := stands.y_lt
  t_lt := sub_lt
  z_ne_zero := stands.z_ne_zero
  x_eq := by
    rw [Point.neg, cast_sub stands.x_lt, stands.x_eq, Twist.Affine.neg_x]
    ring
  y_eq := stands.y_eq
  t_eq := by
    rw [Point.neg, cast_sub stands.t_lt, stands.t_eq, Twist.Affine.neg_x, Twist.Affine.neg_y]
    ring

/-- The sum of two points has no exceptions, so that nothing is asked of them. -/
theorem Represents.add (first : left.Represents affine) (second : right.Represents other) :
    (left.add right).Represents (affine + other) := by
  have a : (Edwards.mul (sub left.y left.x) (sub right.y right.x) : Residue) =
      left.z * right.z * (affine.along other - affine.across other) := by
    rw [cast_mul, cast_sub first.x_lt, cast_sub second.x_lt, first.x_eq, first.y_eq, second.x_eq,
      second.y_eq, Twist.Affine.along, Twist.Affine.across]
    ring
  have b : (Edwards.mul (Edwards.add left.y left.x) (Edwards.add right.y right.x) : Residue) =
      left.z * right.z * (affine.along other + affine.across other) := by
    rw [cast_mul, cast_add, cast_add, first.x_eq, first.y_eq, second.x_eq, second.y_eq,
      Twist.Affine.along, Twist.Affine.across]
    ring
  have c : (Edwards.mul (Edwards.mul (Edwards.mul 2 coefficient) left.t) right.t : Residue) =
      2 * (left.z * right.z) * affine.product other := by
    rw [cast_mul, cast_mul, cast_mul, Nat.cast_ofNat, first.t_eq, second.t_eq, Twist.Affine.product,
      curve_coefficient]
    ring
  have d : (Edwards.mul (Edwards.mul 2 left.z) right.z : Residue) = 2 * (left.z * right.z) := by
    rw [cast_mul, cast_mul, Nat.cast_ofNat, mul_assoc]
  have across := affine.sum_x_mul other
  have along := affine.sum_y_mul other
  have scale := mul_ne_zero two_ne_zero (mul_ne_zero first.z_ne_zero second.z_ne_zero)
  have plus := mul_ne_zero scale (affine.one_add_product_ne_zero other)
  have minus := mul_ne_zero scale (affine.one_sub_product_ne_zero other)
  have sum : affine + other = affine.sum other := rfl
  refine ⟨mul_lt, mul_lt, mul_lt, ?_, ?_, ?_, ?_⟩ <;>
    simp only [Point.add, cast_mul, cast_add, cast_sub mul_lt, a, b, c, d, sum, ← across, ← along]
  · refine ne_of_eq_of_ne ?_ (mul_ne_zero minus plus)
    ring
  · ring
  · ring
  · ring

/-- Doubling for every bit and adding for those that are set comes to the multiple. -/
theorem Represents.mul (stands : point.Represents affine) (factor : Nat) :
    (point.mul factor).Represents (factor • affine) := by
  refine foldr_bits (fun count (sum : Point) => sum.Represents (count • affine)) ?_ ?_
  · intro bit half sum held
    have double : (sum.add sum).Represents ((2 * half) • affine) := by
      rw [two_mul, add_smul]
      exact held.add held
    cases factor.testBit bit with
    | false => exact double
    | true =>
      rw [if_pos rfl, Bool.toNat_true, add_smul, one_smul]
      exact double.add stands
  · rw [zero_smul]
    exact represents_zero

end Point

/-! ## The base point -/

/-- The base point, as one of the group. -/
def base : curve.Affine where
  x := Point.base.x
  y := Point.base.y
  on := by
    have on : sub (Edwards.mul Point.base.y Point.base.y) (Edwards.mul Point.base.x Point.base.x) =
        Edwards.add 1 (Edwards.mul (Edwards.mul coefficient (Edwards.mul Point.base.x Point.base.x))
          (Edwards.mul Point.base.y Point.base.y)) := by decide +kernel
    have same := congrArg (Nat.cast : Nat → Residue) on
    rw [cast_sub mul_lt] at same
    simp only [cast_mul, cast_add, Nat.cast_one] at same
    rw [curve_coefficient]
    linear_combination same

theorem represents_base : Point.base.Represents base :=
  Point.represents_ofAffine (by decide) (by decide) rfl rfl

/-- The order of the base point takes it to the neutral element. -/
theorem order_smul_base : order • base = 0 := by
  have stands := represents_base.mul order
  have x : (Point.base.mul order).x = 0 := by decide +kernel
  have y : (Point.base.mul order).y = (Point.base.mul order).z := by decide +kernel
  have xEq := stands.x_eq
  have yEq := stands.y_eq
  rw [x, Nat.cast_zero] at xEq
  rw [y] at yEq
  ext
  · exact (mul_eq_zero.mp xEq.symm).resolve_right stands.z_ne_zero
  · exact mul_right_cancel₀ stands.z_ne_zero (by rw [← yEq, Twist.Affine.zero_y, one_mul])

theorem mod_order_smul_base (factor : Nat) : (factor % order) • base = factor • base := by
  conv_rhs => rw [← Nat.mod_add_div factor order, add_smul, mul_comm, mul_smul, order_smul_base, smul_zero,
    add_zero]

end WalletTools.Curve.Edwards
