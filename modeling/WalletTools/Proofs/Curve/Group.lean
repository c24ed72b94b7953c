import Mathlib.Algebra.Field.Basic
import Mathlib.Tactic.FieldSimp
import Mathlib.Tactic.LinearCombination
import Mathlib.Tactic.Ring

/-! The group of a curve `y² - x² = 1 + d x² y²` over a field where minus one is a square and `d` is not.
No denominator of the addition law is zero then, so that one formula adds all points, and the points are a
commutative group. -/
namespace WalletTools.Curve

/-- A curve on which the addition law has no exceptions. -/
structure Twist (K : Type) [Field K] where
  coefficient : K
  root : K
  root_mul_root : root * root = -1
  not_square (number : K) : number * number ≠ coefficient
  two_ne_zero : (2 : K) ≠ 0

/-- A point of the curve. -/
@[ext]
structure Twist.Affine {K : Type} [Field K] (curve : Twist K) where
  x : K
  y : K
  on : y ^ 2 - x ^ 2 = 1 + curve.coefficient * x ^ 2 * y ^ 2

namespace Twist.Affine

variable {K : Type} [Field K] {curve : Twist K} (left middle right : curve.Affine)

/-! ## Sums -/

/-- The numerator of the abscissa of a sum. -/
def across : K := left.x * right.y + left.y * right.x

/-- The numerator of the ordinate of a sum. -/
def along : K := left.y * right.y + left.x * right.x

/-- The product by which the denominators of a sum differ from one. -/
def product : K := curve.coefficient * left.x * right.x * left.y * right.y

/-- Were the square of the product one, the coefficient would be a square. -/
theorem product_mul_product_ne_one : left.product right * left.product right ≠ 1 := by
  intro one
  have leftOn := left.on
  have rightOn := right.on
  have nonzero : left.product right ≠ 0 := fun zero => by simp [zero] at one
  unfold product at one nonzero
  obtain ⟨⟨⟨⟨-, leftX⟩, rightX⟩, leftY⟩, rightY⟩ :
      (((curve.coefficient ≠ 0 ∧ left.x ≠ 0) ∧ right.x ≠ 0) ∧ left.y ≠ 0) ∧ right.y ≠ 0 := by
    simpa only [mul_ne_zero_iff] using nonzero
  have vanishes (root : K) (square : root * root = -1) : root * right.x + right.y = 0 := by
    by_contra sum
    apply curve.not_square
      ((root * left.x + left.product right * left.y) / (left.x * left.y * (root * right.x + right.y)))
    rw [div_mul_div_comm, div_eq_iff (by simp [leftX, leftY, sum]), product]
    linear_combination (left.x ^ 2 - curve.coefficient * left.x ^ 2 * left.y ^ 2 * right.x ^ 2) * square +
      (left.y ^ 2 - 1) * one + leftOn - curve.coefficient * left.x ^ 2 * left.y ^ 2 * rightOn
  -- Both roots of minus one give such an equation, and together they leave no ordinate.
  have plus := vanishes curve.root curve.root_mul_root
  have minus := vanishes (-curve.root) (by rw [neg_mul_neg, curve.root_mul_root])
  have double : 2 * right.y = 0 := by linear_combination plus + minus
  exact (mul_ne_zero curve.two_ne_zero rightY) double

theorem one_add_product_ne_zero : 1 + left.product right ≠ 0 := by
  intro zero
  apply left.product_mul_product_ne_one right
  linear_combination (left.product right - 1) * zero

theorem one_sub_product_ne_zero : 1 - left.product right ≠ 0 := by
  intro zero
  apply left.product_mul_product_ne_one right
  linear_combination (-left.product right - 1) * zero

/-- The addition law. -/
def sum : curve.Affine where
  x := left.across right / (1 + left.product right)
  y := left.along right / (1 - left.product right)
  on := by
    have leftOn := left.on
    have rightOn := right.on
    have plus := left.one_add_product_ne_zero right
    have minus := left.one_sub_product_ne_zero right
    have product : left.product right = curve.coefficient * left.x * right.x * left.y * right.y := rfl
    generalize left.product right = product at *
    unfold across along
    field_simp
    grind

theorem sum_x_mul : (left.sum right).x * (1 + left.product right) = left.across right :=
  div_mul_cancel₀ _ (left.one_add_product_ne_zero right)

theorem sum_y_mul : (left.sum right).y * (1 - left.product right) = left.along right :=
  div_mul_cancel₀ _ (left.one_sub_product_ne_zero right)

theorem sum_comm : left.sum right = right.sum left := by
  have product : left.product right = right.product left := by unfold product; ring
  have across : left.across right = right.across left := by unfold across; ring
  have along : left.along right = right.along left := by unfold along; ring
  ext
  · simp only [sum, across, product]
  · simp only [sum, along, product]

/-! ## Sums of three points -/

/-- The product of a sum and a third point, up to the denominators of the sum. -/
theorem product_sum_mul : (left.sum middle).product right *
    ((1 + left.product middle) * (1 - left.product middle)) =
      curve.coefficient * left.across middle * left.along middle * right.x * right.y := by
  rw [← sum_x_mul, ← sum_y_mul]
  unfold product
  ring

theorem sum_sum_x_mul : ((left.sum middle).sum right).x *
    ((1 + left.product middle) * (1 - left.product middle) +
      curve.coefficient * left.across middle * left.along middle * right.x * right.y) =
    left.across middle * (1 - left.product middle) * right.y +
      left.along middle * (1 + left.product middle) * right.x := by
  have known := (left.sum middle).sum_x_mul right
  unfold across at known
  rw [← product_sum_mul, ← left.sum_x_mul middle, ← left.sum_y_mul middle]
  linear_combination (1 + left.product middle) * (1 - left.product middle) * known

theorem sum_sum_y_mul : ((left.sum middle).sum right).y *
    ((1 + left.product middle) * (1 - left.product middle) -
      curve.coefficient * left.across middle * left.along middle * right.x * right.y) =
    left.along middle * (1 + left.product middle) * right.y +
      left.across middle * (1 - left.product middle) * right.x := by
  have known := (left.sum middle).sum_y_mul right
  unfold along at known
  rw [← product_sum_mul, ← left.sum_x_mul middle, ← left.sum_y_mul middle]
  linear_combination (1 + left.product middle) * (1 - left.product middle) * known

theorem sum_sum_x_ne_zero : (1 + left.product middle) * (1 - left.product middle) +
    curve.coefficient * left.across middle * left.along middle * right.x * right.y ≠ 0 := by
  have two := mul_ne_zero (left.one_add_product_ne_zero middle) (left.one_sub_product_ne_zero middle)
  have three := (left.sum middle).one_add_product_ne_zero right
  rw [← product_sum_mul]
  intro zero
  exact mul_ne_zero two three (by linear_combination zero)

theorem sum_sum_y_ne_zero : (1 + left.product middle) * (1 - left.product middle) -
    curve.coefficient * left.across middle * left.along middle * right.x * right.y ≠ 0 := by
  have two := mul_ne_zero (left.one_add_product_ne_zero middle) (left.one_sub_product_ne_zero middle)
  have three := (left.sum middle).one_sub_product_ne_zero right
  rw [← product_sum_mul]
  intro zero
  exact mul_ne_zero two three (by linear_combination zero)

private theorem eq_of_cross_eq {number other top bottom otherTop otherBottom : K}
    (known : number * bottom = top) (otherKnown : other * otherBottom = otherTop) (nonzero : bottom ≠ 0)
    (otherNonzero : otherBottom ≠ 0) (cross : top * otherBottom = otherTop * bottom) : number = other := by
  apply mul_right_cancel₀ (mul_ne_zero nonzero otherNonzero)
  linear_combination otherBottom * known - bottom * otherKnown + cross

section

variable {d x₁ y₁ x₂ y₂ x₃ y₃ : K} (first : y₁ ^ 2 - x₁ ^ 2 = 1 + d * x₁ ^ 2 * y₁ ^ 2)
  (second : y₂ ^ 2 - x₂ ^ 2 = 1 + d * x₂ ^ 2 * y₂ ^ 2) (third : y₃ ^ 2 - x₃ ^ 2 = 1 + d * x₃ ^ 2 * y₃ ^ 2)

include first second third

/-- Cleared of denominators, both ways to add three points give one abscissa. The equations of the outer
points enter in the same way, but for the sign. -/
private theorem cross_x :
    ((x₁ * y₂ + y₁ * x₂) * (1 - d * x₁ * x₂ * y₁ * y₂) * y₃ +
        (y₁ * y₂ + x₁ * x₂) * (1 + d * x₁ * x₂ * y₁ * y₂) * x₃) *
      ((1 + d * x₂ * x₃ * y₂ * y₃) * (1 - d * x₂ * x₃ * y₂ * y₃) +
        d * (x₂ * y₃ + y₂ * x₃) * (y₂ * y₃ + x₂ * x₃) * x₁ * y₁) =
    ((x₂ * y₃ + y₂ * x₃) * (1 - d * x₂ * x₃ * y₂ * y₃) * y₁ +
        (y₂ * y₃ + x₂ * x₃) * (1 + d * x₂ * x₃ * y₂ * y₃) * x₁) *
      ((1 + d * x₁ * x₂ * y₁ * y₂) * (1 - d * x₁ * x₂ * y₁ * y₂) +
        d * (x₁ * y₂ + y₁ * x₂) * (y₁ * y₂ + x₁ * x₂) * x₃ * y₃) := by
  linear_combination d * x₂ * y₂ *
    ((x₁ * (y₂ * y₃ + x₂ * x₃) * ((x₂ * y₃ + y₂ * x₃) * (y₂ * y₃ - x₂ * x₃) -
          x₂ * y₂ * (1 + d * x₂ * x₃ * y₂ * y₃)) +
        y₁ * (x₂ * y₃ + y₂ * x₃) * ((y₂ * y₃ + x₂ * x₃) * (x₂ * y₃ - y₂ * x₃) -
          x₂ * y₂ * (1 - d * x₂ * x₃ * y₂ * y₃))) * first +
      (x₂ * (x₁ * x₃ - y₁ * y₃) * ((x₁ * y₃ - y₁ * x₃) * (x₁ * x₃ + y₁ * y₃) + x₃ * y₃ - x₁ * y₁) +
        y₂ * (x₁ * y₃ - y₁ * x₃) * ((x₁ * x₃ - y₁ * y₃) * (x₁ * y₃ + y₁ * x₃) + x₃ * y₃ + x₁ * y₁)) *
          second -
      (x₃ * (y₂ * y₁ + x₂ * x₁) * ((x₂ * y₁ + y₂ * x₁) * (y₂ * y₁ - x₂ * x₁) -
          x₂ * y₂ * (1 + d * x₂ * x₁ * y₂ * y₁)) +
        y₃ * (x₂ * y₁ + y₂ * x₁) * ((y₂ * y₁ + x₂ * x₁) * (x₂ * y₁ - y₂ * x₁) -
          x₂ * y₂ * (1 - d * x₂ * x₁ * y₂ * y₁))) * third)

/-- And they give one ordinate. -/
private theorem cross_y :
    ((y₁ * y₂ + x₁ * x₂) * (1 + d * x₁ * x₂ * y₁ * y₂) * y₃ +
        (x₁ * y₂ + y₁ * x₂) * (1 - d * x₁ * x₂ * y₁ * y₂) * x₃) *
      ((1 + d * x₂ * x₃ * y₂ * y₃) * (1 - d * x₂ * x₃ * y₂ * y₃) -
        d * (x₂ * y₃ + y₂ * x₃) * (y₂ * y₃ + x₂ * x₃) * x₁ * y₁) =
    ((y₂ * y₃ + x₂ * x₃) * (1 + d * x₂ * x₃ * y₂ * y₃) * y₁ +
        (x₂ * y₃ + y₂ * x₃) * (1 - d * x₂ * x₃ * y₂ * y₃) * x₁) *
      ((1 + d * x₁ * x₂ * y₁ * y₂) * (1 - d * x₁ * x₂ * y₁ * y₂) -
        d * (x₁ * y₂ + y₁ * x₂) * (y₁ * y₂ + x₁ * x₂) * x₃ * y₃) := by
  linear_combination d * x₂ * y₂ *
    ((y₁ * (y₂ * y₃ + x₂ * x₃) * ((x₂ * y₃ + y₂ * x₃) * (y₂ * y₃ - x₂ * x₃) -
          x₂ * y₂ * (1 + d * x₂ * x₃ * y₂ * y₃)) +
        x₁ * (x₂ * y₃ + y₂ * x₃) * ((y₂ * y₃ + x₂ * x₃) * (x₂ * y₃ - y₂ * x₃) -
          x₂ * y₂ * (1 - d * x₂ * x₃ * y₂ * y₃))) * first -
      (y₂ * (x₁ * x₃ - y₁ * y₃) * ((x₁ * y₃ - y₁ * x₃) * (x₁ * x₃ + y₁ * y₃) + x₃ * y₃ - x₁ * y₁) +
        x₂ * (x₁ * y₃ - y₁ * x₃) * ((x₁ * x₃ - y₁ * y₃) * (x₁ * y₃ + y₁ * x₃) + x₃ * y₃ + x₁ * y₁)) *
          second -
      (y₃ * (y₂ * y₁ + x₂ * x₁) * ((x₂ * y₁ + y₂ * x₁) * (y₂ * y₁ - x₂ * x₁) -
          x₂ * y₂ * (1 + d * x₂ * x₁ * y₂ * y₁)) +
        x₃ * (x₂ * y₁ + y₂ * x₁) * ((y₂ * y₁ + x₂ * x₁) * (x₂ * y₁ - y₂ * x₁) -
          x₂ * y₂ * (1 - d * x₂ * x₁ * y₂ * y₁))) * third)

end

theorem sum_assoc : (left.sum middle).sum right = left.sum (middle.sum right) := by
  rw [left.sum_comm (middle.sum right)]
  ext
  · exact eq_of_cross_eq (left.sum_sum_x_mul middle right) (middle.sum_sum_x_mul right left)
      (left.sum_sum_x_ne_zero middle right) (middle.sum_sum_x_ne_zero right left)
      (cross_x left.on middle.on right.on)
  · exact eq_of_cross_eq (left.sum_sum_y_mul middle right) (middle.sum_sum_y_mul right left)
      (left.sum_sum_y_ne_zero middle right) (middle.sum_sum_y_ne_zero right left)
      (cross_y left.on middle.on right.on)

/-! ## The group -/

instance : Zero curve.Affine := ⟨⟨0, 1, by ring⟩⟩

instance : Neg curve.Affine := ⟨fun point => ⟨-point.x, point.y, by linear_combination point.on⟩⟩

instance : Add curve.Affine := ⟨sum⟩

@[simp] theorem zero_x : (0 : curve.Affine).x = 0 := rfl
@[simp] theorem zero_y : (0 : curve.Affine).y = 1 := rfl
@[simp] theorem neg_x (point : curve.Affine) : (-point).x = -point.x := rfl
@[simp] theorem neg_y (point : curve.Affine) : (-point).y = point.y := rfl

theorem zero_sum (point : curve.Affine) : sum 0 point = point := by
  ext
  · simp [sum, across, product]
  · simp [sum, along, product]

theorem neg_sum (point : curve.Affine) : sum (-point) point = 0 := by
  have on := point.on
  ext
  · simp [sum, across, mul_comm]
  · have nonzero := (-point).one_sub_product_ne_zero point
    refine (div_eq_iff nonzero).mpr ?_
    simp only [along, product, neg_x, neg_y, zero_y]
    linear_combination on

instance : AddCommGroup curve.Affine where
  add_assoc := sum_assoc
  zero_add := zero_sum
  add_zero point := (sum_comm point 0).trans (zero_sum point)
  neg_add_cancel := neg_sum
  add_comm := sum_comm
  nsmul := nsmulRec
  zsmul := zsmulRec

end Twist.Affine

end WalletTools.Curve
