import WalletTools.Radix
import WalletTools.Store.Database

/-! Records: the bytes that the values of a row are kept in. A header of numbers says what the values
are; their bytes follow. -/
namespace WalletTools.Store

/-- A number of so many bytes at an offset, most significant first. -/
def number? (bytes : Bytes) (offset width : Nat) : Option Nat :=
  let field := (bytes.drop offset).take width
  if field.length = width then some (Radix.ofBytes field.reverse) else none

/-- The integer of a number of so many bits whose first one makes it negative. -/
def signed (bits number : Nat) : Int :=
  if number < 2 ^ (bits - 1) then number else (number : Int) - 2 ^ bits

/-- Goes on with a number, of which up to `left` bytes hold seven bits and the one behind them eight. -/
def readCompactFrom (value : Nat) : (left : Nat) → Bytes → Option (Nat × Bytes)
  | _, [] => none
  | 0, byte :: rest => some (value * 256 + byte.toNat, rest)
  | left + 1, byte :: rest =>
    if byte < 128 then some (value * 128 + byte.toNat, rest)
    else readCompactFrom (value * 128 + (byte.toNat - 128)) left rest

/-- A number of one to nine bytes, and what follows it. Seven bits of each byte count and the first
tells whether another byte follows; all of a ninth byte counts. -/
def readCompact : Bytes → Option (Nat × Bytes) := readCompactFrom 0 8

/-- As many numbers as bytes hold, if no more than `fuel` of them. -/
def compacts? : (fuel : Nat) → Bytes → Option (List Nat)
  | _, [] => some []
  | 0, _ :: _ => none
  | fuel + 1, bytes => do
    let (number, rest) ← readCompact bytes
    return number :: (← compacts? fuel rest)

/-- How many bytes a value of a kind takes, and what value bytes are. -/
def cellOfKind? : Nat → Option (Nat × (Bytes → Cell))
  | 0 => some (0, fun _ => .null)
  | 1 => integer 1
  | 2 => integer 2
  | 3 => integer 3
  | 4 => integer 4
  | 5 => integer 6
  | 6 => integer 8
  | 7 => some (8, fun bytes => .real (UInt64.ofNat (Radix.ofBytes bytes.reverse)))
  | 8 => some (0, fun _ => .integer 0)
  | 9 => some (0, fun _ => .integer 1)
  | 10 => none
  | 11 => none
  | number => some ((number - 12) / 2, if number % 2 = 0 then .blob else .text)
where
  integer (width : Nat) : Option (Nat × (Bytes → Cell)) :=
    some (width, fun bytes => .integer (signed (8 * width) (Radix.ofBytes bytes.reverse)))

/-- The values of kinds, one after the other. -/
def cellsOfKinds? : List Nat → Bytes → Option (List Cell)
  | [], _ => some []
  | kind :: kinds, bytes => do
    let (size, read) ← cellOfKind? kind
    guard (size ≤ bytes.length)
    return read (bytes.take size) :: (← cellsOfKinds? kinds (bytes.drop size))

/-- The values of a record. Its header begins with its own size. -/
def recordCells? (record : Bytes) : Option (List Cell) := do
  let (size, rest) ← readCompact record
  let header := rest.take (size - (record.length - rest.length))
  let kinds ← compacts? header.length header
  cellsOfKinds? kinds (record.drop size)

end WalletTools.Store
