import WalletTools.Number.Shortest

/-! Numbers as JSON writes them, and what they stand for: a whole number of 64 bits, with or without
a sign, or else a double. -/
namespace WalletTools.Json

/-- A number as written: its sign, its whole digits, the digits of a fraction, and the sign and the
digits of an exponent. -/
structure Numeral where
  negative : Bool
  whole : List Char
  fraction? : Option (List Char)
  exponent? : Option (Bool × List Char)
deriving DecidableEq, Repr

/-- What a numeral stands for. -/
inductive Number
  | integer (value : Int)
  | float (value : Number.Double)
deriving DecidableEq, Repr

/-- The compact text of a number. -/
def Number.text : Number → List Char
  | .integer value => (toString value).toList
  | .float value => value.text

/-- A number without a sign. -/
def Number.natural? : Number → Option UInt64
  | .integer value => if 0 ≤ value then some (UInt64.ofNat value.toNat) else none
  | .float _ => none

/-- Continues a number by digits as long as it stays below `2 ^ 64`; gives the digits left over. -/
def absorb : Nat → List Char → Nat × List Char
  | number, [] => (number, [])
  | number, digit :: digits =>
    let next := 10 * number + (digit.toNat - '0'.toNat)
    if 2 ^ 64 ≤ next then (number, digit :: digits) else absorb next digits

/-- The number that digits write. -/
def digitsValue (digits : List Char) : Nat :=
  digits.foldl (fun number digit => 10 * number + (digit.toNat - '0'.toNat)) 0

/-- A power of ten as a double; the greatest one is the 308th. -/
def powerOfTen (power : Nat) : Number.Double := (Number.Double.nearest? (10 ^ power) 1 0).getD .zero

/-- A whole number times a power of ten as a double, rounded after each step: none if it is too
large. A number beyond `10 ^ -308` is brought there first, and what is smaller still is zero. -/
def scaled? (significand : Nat) (power : Int) : Option Number.Double := do
  let whole ← Number.Double.nearest? significand 1 0
  if 0 ≤ power then
    if power ≤ 308 then whole.mul? (powerOfTen power.toNat)
    else if significand = 0 then some .zero
    else none
  else if -308 ≤ power then whole.div? (powerOfTen (-power).toNat)
  else if -616 ≤ power then
    (← whole.div? (powerOfTen 308)).div? (powerOfTen (-power - 308).toNat)
  else some .zero

/-- The whole number of the digits that fit into 64 bits, and the power of ten that the others leave
to it: digits before the point still count, those behind it do not. -/
def Numeral.significand (numeral : Numeral) : Nat × Int :=
  let (number, beyond) := absorb 0 numeral.whole
  let fraction := numeral.fraction?.getD []
  let (number, ignored) := absorb number fraction
  (number, beyond.length - (fraction.length - ignored.length : Nat))

/-- The double of a numeral, unless it is too large. -/
def Numeral.float? (numeral : Numeral) : Option Number.Double := do
  let (number, power) := numeral.significand
  let power := match numeral.exponent? with
    | none => power
    | some (negative, digits) =>
      if negative then power - digitsValue digits else power + digitsValue digits
  let magnitude ← scaled? number power
  return if numeral.negative then magnitude.neg else magnitude

/-- What a numeral stands for, unless it is too large. Without fraction and exponent it is a whole
number if 64 bits hold it; the opposite of zero is a double, which keeps its sign. -/
def Numeral.number? (numeral : Numeral) : Option Number :=
  let (number, beyond) := absorb 0 numeral.whole
  if numeral.fraction? = none ∧ numeral.exponent? = none ∧ beyond = [] ∧
      (numeral.negative → 0 < number ∧ number ≤ 2 ^ 63) then
    some (.integer (if numeral.negative then -number else number))
  else numeral.float?.map .float

end WalletTools.Json
