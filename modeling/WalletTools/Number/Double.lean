import WalletTools.Powers

/-! Finite numbers of double precision: a sign and a significand below `2 ^ 53` that counts a power of
two, and the rounding of a quotient to the nearest of them. -/
namespace WalletTools.Number

/-- The number `significand * 2 ^ exponent`, or its opposite. A zero keeps its sign. -/
structure Double where
  negative : Bool
  significand : Nat
  exponent : Int
deriving DecidableEq, Repr

namespace Double

/-- The least exponent; below `2 ^ 52` a significand has this one. -/
def leastExponent : Int := -1074

/-- The greatest exponent. -/
def greatestExponent : Int := 971

/-- How many values a significand of full length has at most. -/
def significands : Nat := 2 ^ 53

def zero : Double := ⟨false, 0, leastExponent⟩

instance : Inhabited Double := ⟨zero⟩

/-- The whole number nearest to a quotient, the even one of two. -/
def roundQuotient (numerator denominator : Nat) : Nat :=
  let quotient := numerator / denominator
  let twice := 2 * (numerator % denominator)
  if twice < denominator ∨ (twice = denominator ∧ quotient % 2 = 0) then quotient
  else quotient + 1

/-- The quotient times a power of two, as a quotient. -/
def scale (numerator denominator : Nat) (power : Int) : Nat × Nat :=
  if 0 ≤ power then (numerator * 2 ^ power.toNat, denominator)
  else (numerator, denominator * 2 ^ (-power).toNat)

/-- The double nearest to `numerator / denominator * 2 ^ power`, if that is not beyond all of them. -/
def nearest? (numerator denominator : Nat) (power : Int) : Option Double :=
  if numerator = 0 then some zero
  else
    let full : Int := numerator.log2 - denominator.log2 + power - 53
    let low := max leastExponent full
    let (top, bottom) := scale numerator denominator (power - low)
    let exponent := if top / bottom < significands then low else low + 1
    let (top, bottom) := scale numerator denominator (power - exponent)
    let significand := roundQuotient top bottom
    let (significand, exponent) :=
      if significand = significands then (significands / 2, exponent + 1)
      else (significand, exponent)
    if greatestExponent < exponent then none else some ⟨false, significand, exponent⟩

def neg (double : Double) : Double := { double with negative := !double.negative }

/-- The product of magnitudes, rounded; none if it is too large. -/
def mul? (left right : Double) : Option Double :=
  nearest? (left.significand * right.significand) 1 (left.exponent + right.exponent)

/-- The quotient of magnitudes, rounded; none if it is too large. -/
def div? (left right : Double) : Option Double :=
  nearest? left.significand right.significand (left.exponent - right.exponent)

end Double

end WalletTools.Number
