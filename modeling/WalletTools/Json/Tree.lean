import WalletTools.Json.Scanner

/-! JSON values of any shape: reading them, finding a member, and their compact text, which has the
members of an object in the order of their names. -/
namespace WalletTools

/-- A JSON value. An object keeps all its members as they are written. -/
inductive Json
  | null
  | boolean (value : Bool)
  | number (value : Json.Number)
  | text (value : String)
  | array (elements : List Json)
  | object (members : List (String × Json))

namespace Json

instance : Inhabited Json := ⟨.null⟩

/-! ## Reading -/

/-- How deep arrays and objects may lie in each other. -/
def deepest : Nat := 127

mutual

/-- Reads a value in so many steps and so many levels. -/
def readValue (rules : Rules) : (fuel levels : Nat) → Scanner Json
  | 0, _ => throw .unfinished
  | fuel + 1, levels => do
    skipBlank
    match ← next with
    | 'n' => expectWord ['u', 'l', 'l']; return .null
    | 't' => expectWord ['r', 'u', 'e']; return .boolean true
    | 'f' => expectWord ['a', 'l', 's', 'e']; return .boolean false
    | '"' => return .text (← readQuoted rules)
    | '[' =>
      match levels with
      | 0 => throw .malformed
      | levels + 1 =>
        skipBlank
        if (← peek) = some ']' then discard next; return .array []
        return .array (← readElements rules fuel levels)
    | '{' =>
      match levels with
      | 0 => throw .malformed
      | levels + 1 =>
        skipBlank
        if (← peek) = some '}' then discard next; return .object []
        return .object (← readMembers rules fuel levels)
    | char => return .number (← readNumber rules char)

/-- Reads one element or more, and the mark behind the last. -/
def readElements (rules : Rules) : (fuel levels : Nat) → Scanner (List Json)
  | 0, _ => throw .unfinished
  | fuel + 1, levels => do
    let element ← readValue rules fuel levels
    if ← continues ']' then return element :: (← readElements rules fuel levels)
    return [element]

/-- Reads one member or more, and the mark behind the last. -/
def readMembers (rules : Rules) : (fuel levels : Nat) → Scanner (List (String × Json))
  | 0, _ => throw .unfinished
  | fuel + 1, levels => do
    expect '"'
    let name ← readQuoted rules
    expect ':'
    let value ← readValue rules fuel levels
    if ← continues '}' then return (name, value) :: (← readMembers rules fuel levels)
    return [(name, value)]

end

/-- As many steps as reading the rest of the text can take. -/
def steps : Scanner Nat := return 2 * (← get).length + 2

/-- Reads a value. -/
def read : Scanner Json := do readValue .kept (← steps) deepest

/-- Passes over a value, however deep. -/
def skip : Scanner Unit := do
  let steps ← steps
  discard (readValue .passed steps steps)

/-- The value that a text writes. -/
def parse (text : String) : Except Fault Json := read.whole text

/-! ## Parts -/

/-- A member of an object; the last one of a name counts. -/
def member? (name : String) : Json → Option Json
  | .object members => members.reverse.lookup name
  | _ => none

def isObject : Json → Bool
  | .object _ => true
  | _ => false

def text? : Json → Option String
  | .text value => some value
  | _ => none

/-- A whole number without a sign. -/
def natural? : Json → Option UInt64
  | .number value => value.natural?
  | _ => none

/-! ## Compact text -/

/-- The letter that stands for a character behind a backslash. -/
def escapeLetter? (char : Char) : Option Char :=
  [('"', '"'), ('\\', '\\'), (Char.ofNat 8, 'b'), (Char.ofNat 12, 'f'), ('\n', 'n'), ('\r', 'r'),
    ('\t', 't')].lookup char

/-- What stands for a character in a quoted text: marks, backslashes and controls are escaped. -/
def quoteChar (char : Char) : List Char :=
  match escapeLetter? char with
  | some letter => ['\\', letter]
  | none =>
    if char.toNat < 0x20 then
      ['\\', 'u', '0', '0', (char.toNat / 16).digitChar, (char.toNat % 16).digitChar]
    else [char]

/-- A quoted text. -/
def quote (text : String) : List Char := '"' :: text.toList.flatMap quoteChar ++ ['"']

/-- Texts with commas between them, within marks. -/
def enclose (first last : Char) (texts : List (List Char)) : List Char :=
  first :: (texts.intersperse [',']).flatten ++ [last]

/-- Puts a member into its place among members in order; it takes the place of one of its name. -/
def place {α : Type} (name : String) (value : α) : List (String × α) → List (String × α)
  | [] => [(name, value)]
  | (other, held) :: rest =>
    if name < other then (name, value) :: (other, held) :: rest
    else if name = other then (name, value) :: rest
    else (other, held) :: place name value rest

/-- Members in order, each name once. -/
def arrange {α : Type} (members : List (String × α)) : List (String × α) :=
  members.foldl (fun placed (name, value) => place name value placed) []

/-- A member's text. -/
def memberText (name : String) (value : List Char) : List Char := quote name ++ ':' :: value

mutual

def chars : Json → List Char
  | .null => ['n', 'u', 'l', 'l']
  | .boolean true => ['t', 'r', 'u', 'e']
  | .boolean false => ['f', 'a', 'l', 's', 'e']
  | .number value => value.text
  | .text value => quote value
  | .array elements => enclose '[' ']' (elementsChars elements)
  | .object members =>
    enclose '{' '}' ((arrange (membersChars members)).map fun (name, value) => memberText name value)

def elementsChars : List Json → List (List Char)
  | [] => []
  | element :: elements => element.chars :: elementsChars elements

def membersChars : List (String × Json) → List (String × List Char)
  | [] => []
  | (name, value) :: members => (name, value.chars) :: membersChars members

end

/-- The compact text of a value. -/
def compact (json : Json) : String := String.ofList json.chars

end Json

end WalletTools
