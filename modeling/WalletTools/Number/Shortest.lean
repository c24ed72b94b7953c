import WalletTools.Number.Double

/-! The text of a double: the fewest digits that read back as it, and of these the nearest. It is
written out from `1e-5` up to below `1e16` and with an exponent elsewhere. -/
namespace WalletTools.Number

/-- A whole number of digits, counting a power of ten. -/
structure Decimal where
  digits : Nat
  exponent : Int
deriving DecidableEq, Repr

/-- The numbers that are rounded to a double, in quarters of its last place: its own value, the ends,
and whether the ends belong to them. -/
structure Neighbourhood where
  low : Nat
  value : Nat
  high : Nat
  closed : Bool

/-- Below a power of two the doubles lie twice as close. -/
def Double.neighbourhood (double : Double) : Neighbourhood where
  low :=
    if double.significand = significands / 2 ∧ leastExponent < double.exponent then
      4 * double.significand - 1
    else 4 * double.significand - 2
  value := 4 * double.significand
  high := 4 * double.significand + 2
  closed := double.significand % 2 = 0

def Neighbourhood.contains (near : Neighbourhood) (weight point : Nat) : Bool :=
  if near.closed then near.low * weight ≤ point ∧ point ≤ near.high * weight
  else near.low * weight < point ∧ point < near.high * weight

/-- Factors that bring quarters of a double's last place and a power of ten to a common measure. -/
def Double.measures (double : Double) (power : Int) : Nat × Nat :=
  (2 ^ (double.exponent - 2).toNat * 10 ^ (-power).toNat,
    2 ^ (2 - double.exponent).toNat * 10 ^ power.toNat)

/-- The power of ten that a double's first digit counts. -/
def Double.order (double : Double) : Int :=
  let guess := (double.significand.log2 + double.exponent) * 30103 / 100000
  let (weight, unit) := double.measures (guess + 1)
  if unit ≤ 4 * double.significand * weight then guess + 1 else guess

/-- The nearest decimal of so many digits that reads back, an even one of two. -/
def Double.decimal? (double : Double) (length : Nat) : Option Decimal :=
  let near := double.neighbourhood
  let power := double.order + 1 - length
  let (weight, unit) := double.measures power
  let below := near.value * weight / unit
  let twice := 2 * (near.value * weight % unit)
  let nearest :=
    if twice < unit ∨ (twice = unit ∧ below % 2 = 0) then [below, below + 1] else [below + 1, below]
  (nearest.find? fun digits => near.contains weight (digits * unit)).map (⟨·, power⟩)

/-- The fewest digits that read back; a double has never more than 17. -/
def Double.shortest (double : Double) : Decimal :=
  (((List.range 17).map (· + 1)).findSome? double.decimal?).getD
    ⟨double.significand * 2 ^ double.exponent.toNat, 0⟩

/-- Digits without the zeros at their end, which count in the exponent. -/
def Decimal.trim (decimal : Decimal) : List Char × Int :=
  let digits := (Nat.toDigits 10 decimal.digits).reverse
  let kept := (digits.dropWhile (· = '0')).reverse
  (kept, decimal.exponent + (digits.length - kept.length))

/-- The text of a magnitude. -/
def Decimal.text (decimal : Decimal) : List Char :=
  let (digits, exponent) := decimal.trim
  let order := exponent + digits.length - 1
  if -5 ≤ order ∧ order < 16 then
    if 0 ≤ exponent then digits ++ List.replicate exponent.toNat '0' ++ ['.', '0']
    else if 0 ≤ order then
      digits.take (order + 1).toNat ++ '.' :: digits.drop (order + 1).toNat
    else '0' :: '.' :: List.replicate (-order - 1).toNat '0' ++ digits
  else
    let sign := if order < 0 then '-' else '+'
    let point := if digits.length = 1 then [] else '.' :: digits.drop 1
    digits.take 1 ++ point ++ 'e' :: sign :: Nat.toDigits 10 order.natAbs

/-- The text of a double. -/
def Double.text (double : Double) : List Char :=
  let magnitude :=
    if double.significand = 0 then ['0', '.', '0'] else double.shortest.text
  if double.negative then '-' :: magnitude else magnitude

end WalletTools.Number
