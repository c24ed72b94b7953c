import WalletTools.MessagePack.Family
import WalletTools.Radix
import WalletTools.Text.Utf8

/-! Values read from the front of MessagePack bytes. A reading step gives a value or a fault, and in
either case the bytes that are left. -/
namespace WalletTools.MessagePack

/-- Why no value can be read. -/
inductive Fault
  /-- No byte is left for a marker. -/
  | marker
  /-- The number that a marker announces is cut off. -/
  | data
  /-- The marker is one of another kind of value. -/
  | kind
  /-- The integer is negative. -/
  | negative
  /-- Fewer bytes are left than a length calls for. -/
  | short (needed available : Nat)
  /-- A byte string has another length than the one expected. -/
  | size (expected actual : Nat)
  /-- The bytes of a string write no text. -/
  | text (fault : Text.Utf8.Fault)
deriving DecidableEq, Repr

def Fault.message : Fault → String
  | .marker => "failed to read MessagePack marker"
  | .data => "failed to read MessagePack data"
  | .kind => "the type decoded isn't match with the expected one"
  | .negative => "out of range integral type conversion attempted"
  | .short needed available =>
    s!"unexpected end of input: need {needed} bytes, have {available}"
  | .size expected actual => s!"expected {expected} bytes, got {actual}"
  | .text fault => fault.message

/-- A step of reading. -/
abbrev Reader := ExceptT Fault (StateM Bytes)

/-- A step that looks at the bytes left. -/
def Reader.of {α : Type} (step : Bytes → Except Fault α × Bytes) : Reader α := step

/-- The next byte, which is a marker. -/
def readMarker : Reader UInt8 := .of fun
  | [] => (.error .marker, [])
  | byte :: rest => (.ok byte, rest)

/-- A number of `width` bytes, most significant first. -/
def readNumber (width : Nat) : Reader Nat := .of fun bytes =>
  if width ≤ bytes.length then
    (.ok (Radix.ofBytes (bytes.take width).reverse), bytes.drop width)
  else (.error .data, bytes)

/-- The next `count` bytes; nothing is read if there are fewer. -/
def take (count : Nat) : Reader Bytes := .of fun bytes =>
  if count ≤ bytes.length then (.ok (bytes.take count), bytes.drop count)
  else (.error (.short count bytes.length), bytes)

/-- A number behind a marker of the family. -/
def Family.read (family : Family) : Reader Nat := do
  let marker ← readMarker
  if family.first ≤ marker.toNat ∧ marker.toNat < family.first + family.count then
    return marker.toNat - family.first
  match family.wide.lookup marker with
  | some width => readNumber width
  | none => throw .kind

/-- The number of entries of a map. -/
def readMap : Reader Nat := Family.map.read

/-- The number of elements of an array. -/
def readArray : Reader Nat := Family.array.read

/-- An integer of any width, with or without a sign, that is not negative. -/
def readUInt : Reader UInt64 := do
  let marker ← readMarker
  if marker < 0x80 then return marker.toUInt64
  if 0xe0 ≤ marker then throw .negative
  match Family.uint.wide.lookup marker with
  | some width => return UInt64.ofNat (← readNumber width)
  | none =>
    match Family.signed.lookup marker with
    | some width =>
      let number ← readNumber width
      if 256 ^ width ≤ 2 * number then throw .negative
      return UInt64.ofNat number
    | none => throw .kind

/-- A byte string behind its length. -/
def readBin : Reader Bytes := do take (← Family.bin.read)

/-- A byte string of exactly `size` bytes behind its length. -/
def readFixed (size : Nat) : Reader (FixedBytes size) := do
  let bytes ← readBin
  match FixedBytes.ofList? bytes with
  | some fixed => return fixed
  | none => throw (.size size bytes.length)

/-- A text behind its length in bytes. -/
def readStr : Reader String := do
  match Text.Utf8.decode (← take (← Family.str.read)) with
  | .ok text => return text
  | .error fault => throw (.text fault)

/-- The kinds of value that can be read one after the other. -/
inductive Kind
  | map
  | array
  | str
  | uint
  | bin
  | fixed (size : Nat)
  | raw (size : Nat)
deriving DecidableEq, Repr

/-- A value of one of the kinds. -/
inductive Value
  | count (count : Nat)
  | text (text : String)
  | number (number : UInt64)
  | bytes (bytes : Bytes)
deriving DecidableEq, Repr

/-- Reads a value of the kind. -/
def Kind.read : Kind → Reader Value
  | .map => .count <$> readMap
  | .array => .count <$> readArray
  | .str => .text <$> readStr
  | .uint => .number <$> readUInt
  | .bin => .bytes <$> readBin
  | .fixed size => (fun fixed => .bytes fixed.toList) <$> readFixed size
  | .raw size => .bytes <$> take size

end WalletTools.MessagePack
