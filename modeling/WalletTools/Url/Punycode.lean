/-! Labels of domain names that are written in ASCII: first their ASCII characters, then digits that
tell which other characters are put in and where. -/
namespace WalletTools.Url.Punycode

/-- The value of a digit, of which there are thirty-six. -/
def digitValue? (char : Char) : Option Nat :=
  if 'a' ≤ char ∧ char ≤ 'z' then some (char.toNat - 'a'.toNat)
  else if 'A' ≤ char ∧ char ≤ 'Z' then some (char.toNat - 'A'.toNat)
  else if '0' ≤ char ∧ char ≤ '9' then some (char.toNat - '0'.toNat + 26)
  else none

/-- Below this value a digit ends its number; `place` counts the digits by thirty-sixes. -/
def threshold (place bias : Nat) : Nat := min 26 (max 1 (place - bias))

/-- How often a distance has to be divided until it is small, by thirty-sixes, and what is left. -/
def shrink (distance place : Nat) : Nat × Nat :=
  if 455 < distance then shrink (distance / 35) (place + 36) else (distance, place)
  termination_by distance
  decreasing_by exact Nat.div_lt_self (by omega) (by omega)

/-- The bias after a number, which is the distance to the next place among `count`. -/
def adapt (distance count : Nat) (first : Bool) : Nat :=
  let damped := if first then distance / 700 else distance / 2
  let (left, place) := shrink (damped + damped / count) 0
  place + 36 * left / (left + 38)

/-- A label while its digits are read: the characters, the next code point and the next place in
question, and the number being read with the weight of its next digit. -/
structure State where
  chars : List Char
  code : Nat
  place : Nat
  bias : Nat
  number : Nat
  weight : Nat
  digitPlace : Nat

/-- Before any digit. -/
def State.start (chars : List Char) : State := ⟨chars, 128, 0, 72, 0, 1, 36⟩

/-- Puts in the character that a whole number tells, if there is such a character. -/
def State.put (state : State) (number : Nat) : Option State :=
  let count := state.chars.length + 1
  let index := state.place + number
  let code := state.code + index / count
  let place := index % count
  if code.isValidChar then
    some {
      chars := state.chars.take place ++ Char.ofNat code :: state.chars.drop place
      code
      place := place + 1
      bias := adapt number count (state.place = 0)
      number := 0
      weight := 1
      digitPlace := 36 }
  else none

/-- Reads digits to the end of a number that ends them. -/
def State.read (state : State) : List Char → Option (List Char)
  | [] => if state.weight = 1 then some state.chars else none
  | char :: rest => do
    let digit ← digitValue? char
    let number := state.number + digit * state.weight
    let least := threshold state.digitPlace state.bias
    if digit < least then (← state.put number).read rest
    else
      State.read
        { state with
          number
          weight := state.weight * (36 - least)
          digitPlace := state.digitPlace + 36 }
        rest

/-- The characters of a label. A dash divides the ASCII characters, if there are any, from the
digits. -/
def decode (label : List Char) : Option (List Char) :=
  let digits := (label.reverse.takeWhile (· ≠ '-')).reverse
  let front := label.take (label.length - digits.length)
  let plain := front.dropLast
  if plain.isEmpty then (State.start []).read label else (State.start plain).read digits

end WalletTools.Url.Punycode
