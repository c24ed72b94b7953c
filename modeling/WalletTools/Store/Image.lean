import WalletTools.Store.Record

/-! SQLite database files as they lie on a disk: pages of one size, trees of pages for the rows of
tables, and chains of pages for what of a row finds no room in its tree. A file is taken as it stands;
journals beside it are not looked at. -/
namespace WalletTools.Store

/-- The pages of a database file, and how many bytes of each are used. -/
structure Image where
  pages : Array Bytes
  usable : Nat

namespace Image

/-- The bytes that a database file begins with. -/
def signature : Bytes := Text.Utf8.encode "SQLite format 3\x00"

/-- How many bytes the header of a file takes. -/
def headerSize : Nat := 100

/-- Bytes cut into so many pieces of a size. -/
def split (size : Nat) : (count : Nat) → Bytes → List Bytes
  | 0, _ => []
  | count + 1, bytes => bytes.take size :: split size count (bytes.drop size)

/-- The size of a page by its number in the header, for which the greatest is too great. -/
def pageSize? : Nat → Option Nat
  | 1 => some 65536
  | size => if size ∈ (List.range 7).map (512 * 2 ^ ·) then some size else none

/-- The pages of a file, if its bytes begin as those of a database of UTF-8 texts do. -/
def ofBytes? (bytes : Bytes) : Option Image := do
  let header := bytes.take headerSize
  guard (header.take signature.length = signature)
  guard ((← number? header 19 1) ≤ 2)
  guard ((header.drop 21).take 3 = [64, 32, 32])
  guard ((← number? header 56 4) ≤ 1)
  let size ← pageSize? (← number? header 16 2)
  let usable := size - (← number? header 20 1)
  guard (480 ≤ usable)
  return ⟨(split size ((bytes.length + size - 1) / size) bytes).toArray, usable⟩

variable (image : Image)

/-- A page by its number; the first page has the number one. -/
def page? (number : Nat) : Option Bytes := if number = 0 then none else image.pages[number - 1]?

/-- So many bytes on a chain of at most `fuel` pages, each of which names the next. -/
def chained? : (fuel page count : Nat) → Option Bytes
  | _, _, 0 => some []
  | 0, _, _ + 1 => none
  | fuel + 1, page, count => do
    let bytes ← image.page? page
    let next ← number? bytes 0 4
    let here := ((bytes.take image.usable).drop 4).take count
    return here ++ (← chained? fuel next (count - here.length))

/-- How many bytes of a record stand in the tree. -/
def localSize (size : Nat) : Nat :=
  let least := (image.usable - 12) * 32 / 255 - 23
  let filled := least + (size - least) % (image.usable - 4)
  if size ≤ image.usable - 35 then size
  else if filled ≤ image.usable - 35 then filled
  else least

/-- The row at the start of bytes of a leaf. -/
def row? (bytes : Bytes) : Option Row := do
  let (size, rest) ← readCompact bytes
  let (number, rest) ← readCompact rest
  let here := image.localSize size
  guard (here ≤ rest.length)
  let beyond ← if here = size then some [] else
    image.chained? image.pages.size (← number? rest here 4) (size - here)
  return ⟨signed 64 number, ← recordCells? (rest.take here ++ beyond)⟩

/-- Where the tree begins on a page: the first page begins with the header of the file. -/
def treeStart (page : Nat) : Nat := if page = 1 then headerSize else 0

/-- Whether a page belongs to a tree of rows that go by numbers. -/
def isNumbered (page : Nat) : Bool :=
  match image.page? page >>= (number? · (treeStart page) 1) with
  | some kind => kind = 5 || kind = 13
  | none => false

/-- The rows of a tree of at most so many levels. -/
def rows? : (levels page : Nat) → Option (List Row)
  | 0, _ => none
  | levels + 1, page => do
    let bytes ← image.page? page
    let start := treeStart page
    let count ← number? bytes (start + 3) 2
    match ← number? bytes start 1 with
    | 13 =>
      (List.range count).mapM fun index => do
        image.row? (bytes.drop (← number? bytes (start + 8 + 2 * index) 2))
    | 5 =>
      let children ← (List.range count).mapM fun index => do
        number? bytes (← number? bytes (start + 12 + 2 * index) 2) 4
      let last ← number? bytes (start + 8) 4
      let parts ← (children ++ [last]).mapM fun child => rows? levels child
      return parts.flatten
    | _ => none

end Image

end WalletTools.Store
