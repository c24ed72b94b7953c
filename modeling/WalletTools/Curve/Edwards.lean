import WalletTools.Curve.Modular
import WalletTools.Radix

/-! The twisted Edwards curve `y² - x² = 1 + d x² y²` over the integers modulo `2 ^ 255 - 19`, its
base point, and the thirty-two bytes that write a point. -/
namespace WalletTools.Curve.Edwards

/-- The prime of the field. -/
def fieldPrime : Nat := 2 ^ 255 - 19

/-- The order of the base point. -/
def order : Nat := 2 ^ 252 + 27742317777372353535851937790883648493

/-- The coefficient `d`, minus 121665 by 121666. -/
def coefficient : Nat := 37095705934669439343138083508754565189542113879843219016388785533085940283555

/-- A square root of minus one. -/
def rootOfMinusOne : Nat :=
  19681161376707505956807079304988542015446066515923890162744021073123829784752

def add (left right : Nat) : Nat := Modular.add fieldPrime left right
def sub (left right : Nat) : Nat := Modular.sub fieldPrime left right
def mul (left right : Nat) : Nat := Modular.mul fieldPrime left right

/-- A point in projective coordinates: `x / z` and `y / z`, with `t = x y / z`. -/
structure Point where
  x : Nat
  y : Nat
  z : Nat
  t : Nat

/-- The neutral element. -/
def Point.zero : Point := ⟨0, 1, 1, 0⟩

/-- The point with given affine coordinates. -/
def Point.ofAffine (x y : Nat) : Point := ⟨x, y, 1, mul x y⟩

/-- The base point, whose ordinate is four by five and whose abscissa is even. -/
def Point.base : Point :=
  .ofAffine 15112221349535400772501151409588531511454012693041857206046113283949847762202
    46316835694926478169428394003475163141307993866256225615783033603165251855960

/-- The sum of two points; the formulas hold for equal points too. -/
def Point.add (left right : Point) : Point :=
  let a := mul (sub left.y left.x) (sub right.y right.x)
  let b := mul (Edwards.add left.y left.x) (Edwards.add right.y right.x)
  let c := mul (mul (mul 2 coefficient) left.t) right.t
  let d := mul (mul 2 left.z) right.z
  let e := sub b a
  let f := sub d c
  let g := Edwards.add d c
  let h := Edwards.add b a
  ⟨mul e f, mul g h, mul f g, mul e h⟩

def Point.neg (point : Point) : Point := ⟨sub 0 point.x, point.y, point.z, sub 0 point.t⟩

/-- A multiple of a point, by doubling once for every bit of the factor, the highest first. -/
def Point.mul (factor : Nat) (point : Point) : Point :=
  (List.range (factor.log2 + 1)).foldr
    (fun bit sum =>
      let double := sum.add sum
      if factor.testBit bit then double.add point else double)
    .zero

/-- The bytes of a point: the ordinate, least significant byte first, and in the last bit whether the
abscissa is odd. -/
def Point.compress (point : Point) : FixedBytes 32 :=
  let scale := Modular.inverse fieldPrime point.z
  let x := Edwards.mul point.x scale
  let y := Edwards.mul point.y scale
  ⟨Radix.toBytes 32 (y + 2 ^ 255 * (x % 2)), Radix.length_toBytes ..⟩

/-- A square root of `numerator / denominator`, the even one, if there is one. -/
def squareRoot? (numerator denominator : Nat) : Option Nat :=
  let cube := mul (mul denominator denominator) denominator
  let seventh := mul (mul cube cube) denominator
  let guess := mul (mul numerator cube) (Modular.pow fieldPrime (mul numerator seventh) ((fieldPrime - 5) / 8))
  let square := mul denominator (mul guess guess)
  let even (root : Nat) : Nat := if root % 2 = 0 then root else sub 0 root
  if square = numerator then some (even guess)
  else if square = sub 0 numerator then some (even (mul guess rootOfMinusOne))
  else none

/-- The point that bytes write. An ordinate that is not reduced is taken modulo the prime, and a
negative zero abscissa is taken as zero. -/
def Point.decompress? (bytes : FixedBytes 32) : Option Point := do
  let number := Radix.ofBytes bytes.toList
  let y := number % 2 ^ 255 % fieldPrime
  let square := Edwards.mul y y
  let x ← squareRoot? (sub square 1) (Edwards.add (Edwards.mul coefficient square) 1)
  return .ofAffine (if number / 2 ^ 255 = 1 then sub 0 x else x) y

end WalletTools.Curve.Edwards
