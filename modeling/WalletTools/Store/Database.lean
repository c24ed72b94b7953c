import WalletTools.Files

/-! Tables of rows, in which a single value is looked up by the names of its table and its column. -/
namespace WalletTools.Store

/-- A value of a row. -/
inductive Cell
  | null
  | integer (value : Int)
  /-- A double, by its bits. -/
  | real (bits : UInt64)
  | text (bytes : Bytes)
  | blob (bytes : Bytes)
deriving DecidableEq, Repr

/-- The name of a kind of value. -/
def Cell.kind : Cell → String
  | .null => "Null"
  | .integer _ => "Integer"
  | .real _ => "Real"
  | .text _ => "Text"
  | .blob _ => "Blob"

/-- A row and the number that it goes by. -/
structure Row where
  number : Int
  cells : List Cell
deriving DecidableEq, Repr

/-- A table; its rows are in the order of their numbers. -/
structure Table where
  name : String
  columns : List String
  rows : List Row
deriving DecidableEq, Repr

abbrev Database := List Table

/-- Why a value is not found. -/
inductive Fault
  | unopened (path : String)
  | directory
  /-- The bytes of a file are no database. -/
  | foreign
  /-- A database's bytes contradict each other. -/
  | damaged
  | noTable (table : String)
  | noColumn (column table : String)
  | noRow
  | kind (cell : Cell) (column : String)
deriving DecidableEq, Repr

/-- What is asked of a database for a column. -/
def query (column table : String) : String := s!"SELECT {column} FROM {table}"

def Fault.message : Fault → String
  | .unopened path => s!"unable to open database file: {path}"
  | .directory => "disk I/O error"
  | .foreign => "file is not a database"
  | .damaged => "database disk image is malformed"
  | .noTable table => s!"no such table: {table}"
  | .noColumn column table => s!"no such column: {column} in {query column table} at offset 7"
  | .noRow => "Query returned no rows"
  | .kind cell column => s!"Invalid column type {cell.kind} at index: 0, name: {column}"

/-- Whether names are the same but for the case of ASCII letters. -/
def sameName (left right : String) : Bool := left.toList.map Char.toLower = right.toList.map Char.toLower

/-- Puts a row among rows in the order of their numbers. -/
def Row.place (row : Row) : List Row → List Row
  | [] => [row]
  | other :: rest => if row.number < other.number then row :: other :: rest else other :: row.place rest

/-- Adds a row. One without a number goes by the number above the greatest. -/
def Table.insert (table : Table) (number? : Option Int) (cells : List Cell) : Table :=
  let next := match table.rows.getLast? with
    | some last => last.number + 1
    | none => 1
  { table with rows := Row.place ⟨number?.getD next, cells⟩ table.rows }

/-- The bytes that the first row of a table has in a column. -/
def Database.firstBlob (database : Database) (table column : String) : Except Fault Bytes := do
  let some found := database.find? fun candidate => sameName candidate.name table
    | throw (.noTable table)
  let some index := found.columns.findIdx? (sameName · column) | throw (.noColumn column table)
  let some row := found.rows.head? | throw .noRow
  match row.cells.getD index .null with
  | .blob bytes => return bytes
  | cell => throw (.kind cell (found.columns.getD index column))

end WalletTools.Store
