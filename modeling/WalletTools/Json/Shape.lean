import WalletTools.Json.Tree

/-! Records of texts and counts as JSON. A record is read from an object of its members in any order,
in which members of other names are passed over, or from an array of the values in their order. It is
written as an object. -/
namespace WalletTools.Json

/-- The kinds of value that a record holds. -/
inductive Kind
  | text
  | count
deriving DecidableEq, Repr

/-- The values of a kind. -/
abbrev Kind.Value : Kind → Type
  | .text => String
  | .count => UInt64

/-- A member of a record, and the value that stands for it where it is missing. -/
structure Field where
  name : String
  kind : Kind
  default? : Option kind.Value

/-- A value for every field. -/
abbrev Row : List Field → Type
  | [] => Unit
  | field :: fields => field.kind.Value × Row fields

/-- Values for the fields that are read so far. -/
abbrev Draft : List Field → Type
  | [] => Unit
  | field :: fields => Option field.kind.Value × Draft fields

/-- How records are laid out in JSON, and what they are built from. -/
structure Shape (α : Type) where
  title : String
  fields : List Field
  build : Row fields → α
  parts : α → Row fields

/-! ## Values -/

/-- The fault of meeting another value than the one expected. -/
def reject {α : Type} (expected : Expected) : Scanner α := do
  let found ← do
    match ← next with
    | 'n' => expectWord ['u', 'l', 'l']; pure Found.null
    | 't' => expectWord ['r', 'u', 'e']; pure (.boolean true)
    | 'f' => expectWord ['a', 'l', 's', 'e']; pure (.boolean false)
    | '"' => pure (.text (← readQuoted .kept))
    | '[' => pure .sequence
    | '{' => pure .map
    | char => pure (.number (← readNumber .kept char))
  throw (.mismatch (.kind found expected))

/-- Reads a text. -/
def readText : Scanner String := do
  skipBlank
  if (← peek) = some '"' then
    discard next
    readQuoted .kept
  else reject .text

/-- Reads a count. -/
def readCount : Scanner UInt64 := do
  skipBlank
  match ← peek with
  | none => throw .unfinished
  | some char =>
    if char = '-' ∨ char.isDigit then
      let value ← readNumber .kept (← next)
      match value, value.natural? with
      | _, some count => return count
      | .integer value, none => throw (.mismatch (.negative value))
      | value, none => throw (.mismatch (.kind (.number value) .count))
    else reject .count

def Kind.read : (kind : Kind) → Scanner kind.Value
  | .text => readText
  | .count => readCount

def Kind.chars : (kind : Kind) → kind.Value → List Char
  | .text, value => quote value
  | .count, value => Nat.toDigits 10 value.toNat

/-! ## Objects -/

/-- Nothing read yet. -/
def Draft.empty : (fields : List Field) → Draft fields
  | [] => ()
  | _ :: fields => (none, Draft.empty fields)

/-- Reads the member of a name into a draft, unless no field has the name. -/
def Draft.enter : (fields : List Field) → Draft fields → (name : String) →
    Option (Scanner (Draft fields))
  | [], _, _ => none
  | field :: fields, (held?, draft), name =>
    if field.name = name then some do
      if held?.isSome then throw (.mismatch (.duplicate name))
      expect ':'
      return (some (← field.kind.read), draft)
    else (Draft.enter fields draft name).map fun step => return (held?, ← step)

/-- Reads one member. -/
def Draft.member (fields : List Field) (draft : Draft fields) : Scanner (Draft fields) := do
  expect '"'
  let name ← readQuoted .kept
  match Draft.enter fields draft name with
  | some step => step
  | none =>
    expect ':'
    skip
    return draft

/-- Reads one member or more, and the mark behind the last. -/
def Draft.members (fields : List Field) : (fuel : Nat) → Draft fields → Scanner (Draft fields)
  | 0, _ => throw .unfinished
  | fuel + 1, draft => do
    let draft ← Draft.member fields draft
    if ← continues '}' then Draft.members fields fuel draft else return draft

/-- The values read, with defaults for missing ones; the first that is missing without a default is
told. -/
def Draft.finish : (fields : List Field) → Draft fields → Except Fault (Row fields)
  | [], _ => return ()
  | field :: fields, (held?, draft) => do
    match held? <|> field.default? with
    | some value => return (value, ← Draft.finish fields draft)
    | none => throw (.mismatch (.missing field.name))

/-- Reads the members of an object behind its first mark. -/
def readObject (fields : List Field) : Scanner (Row fields) := do
  skipBlank
  let draft ← if (← peek) = some '}' then
      discard next
      pure (Draft.empty fields)
    else Draft.members fields ((← get).length + 1) (Draft.empty fields)
  liftM (draft.finish fields)

/-! ## Arrays -/

/-- Defaults for all fields behind the ones that an array holds. -/
def fillRow (title : String) (size : Nat) :
    (fields : List Field) → (count : Nat) → Except Fault (Row fields)
  | [], _ => return ()
  | field :: fields, count =>
    match field.default? with
    | some value => return (value, ← fillRow title size fields (count + 1))
    | none => throw (.mismatch (.short count title size))

/-- Reads elements for fields, of which `count` are read, and the mark behind the last. -/
def readRow (title : String) (size : Nat) :
    (fields : List Field) → (count : Nat) → Scanner (Row fields)
  | [], _ => expect ']'
  | field :: fields, count => do
    skipBlank
    if (← peek) = some ']' then
      let row ← liftM (fillRow title size (field :: fields) count)
      discard next
      return row
    if 0 < count then expect ','
    let value ← field.kind.read
    return (value, ← readRow title size fields (count + 1))

/-! ## Records -/

namespace Shape

variable {α : Type} (shape : Shape α)

/-- Reads a record. -/
def scanner : Scanner α := do
  skipBlank
  match ← peek with
  | none => throw .unfinished
  | some '{' =>
    discard next
    return shape.build (← readObject shape.fields)
  | some '[' =>
    discard next
    return shape.build (← readRow shape.title shape.fields.length shape.fields 0)
  | some _ => reject (.record shape.title)

/-- The record that a text writes. -/
def parse (text : String) : Except Fault α := shape.scanner.whole text

/-- The texts of a row's members. -/
def rowChars : (fields : List Field) → Row fields → List (List Char)
  | [], _ => []
  | field :: fields, (value, row) =>
    memberText field.name (field.kind.chars value) :: rowChars fields row

/-- The compact text of a record, its members in the order of the fields. -/
def compact (value : α) : String :=
  String.ofList (enclose '{' '}' (rowChars shape.fields (shape.parts value)))

end Shape

end WalletTools.Json
