import WalletTools.Powers

/-! The forms of a command line's arguments, seen one by one. -/
namespace WalletTools.CommandLine

inductive Argument
  /-- Two dashes: no option follows. -/
  | separator
  /-- An option by its word, and the value that an equals sign gives it. -/
  | word (name : String) (value? : Option String)
  /-- An option by its letter, and the value that follows at once. -/
  | letter (name : Char) (value? : Option String)
  /-- Anything else; a single dash too. -/
  | plain (text : String)
deriving DecidableEq, Repr

/-- An attached value, without equals signs at its start. -/
def attached (chars : List Char) : String := String.ofList (chars.dropWhile (· = '='))

/-- The form of an argument. Any number of dashes above one stand before a word. -/
def Argument.ofText (text : String) : Argument :=
  match text.toList with
  | ['-', '-'] => .separator
  | '-' :: '-' :: rest =>
    let body := rest.dropWhile (· = '-')
    let name := String.ofList (body.takeWhile (· ≠ '='))
    match body.dropWhile (· ≠ '=') with
    | [] => .word name none
    | _ :: value => .word name (some (attached value))
  | ['-', char] => .letter char none
  | '-' :: char :: value => .letter char (some (attached value))
  | _ => .plain text

/-- A whole number below `2 ^ 64` in decimal digits, with or without a plus sign. -/
def count? (text : String) : Option UInt64 :=
  let digits := match text.toList with
    | '+' :: rest => rest
    | all => all
  if digits ≠ [] ∧ digits.all Char.isDigit then
    let number := digits.foldl (fun number digit => 10 * number + (digit.toNat - '0'.toNat)) 0
    if number < 2 ^ 64 then some (UInt64.ofNat number) else none
  else none

end WalletTools.CommandLine
