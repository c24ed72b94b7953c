import WalletTools.Store.Definition
import WalletTools.Store.Image

/-! Databases in files. -/
namespace WalletTools.Store

/-- How many levels the trees of a file may have. -/
def levelLimit : Nat := 20

/-- A row whose column for the numbers of the rows holds its number; it is kept without. -/
def Row.numbered (columns : List Column) (row : Row) : Row :=
  match columns.findIdx? Column.isNumber with
  | some index => { row with cells := row.cells.set index (.integer row.number) }
  | none => row

/-- The table that an entry of the list of contents is about, if it is about a table whose rows go by
numbers. An entry has a kind, a name, the name of its table, a page and a statement. -/
def Image.table? (image : Image) (entry : Row) : Except Fault (Option Table) :=
  match entry.cells with
  | [.text kind, .text name, _, .integer page, .text statement] =>
    if kind = Text.Utf8.encode "table" && image.isNumbered page.toNat then
      let columns := columnsOf (Text.Utf8.decodeReplacing statement)
      match image.rows? levelLimit page.toNat with
      | some rows =>
        .ok (some {
          name := Text.Utf8.decodeReplacing name
          columns := columns.map Column.name
          rows := rows.map (Row.numbered columns) })
      | none => .error .damaged
    else .ok none
  | _ => .ok none

/-- The tables of a database file, whose list of contents is the tree of the first page. -/
def Image.database (image : Image) : Except Fault Database :=
  match image.rows? levelLimit 1 with
  | some entries => (·.filterMap id) <$> entries.mapM image.table?
  | none => .error .damaged

/-- The database in a file. A file without contents is a database without tables. -/
def openFile (path : String) : File → Except Fault Database
  | .ok [] => .ok []
  | .ok bytes =>
    match Image.ofBytes? bytes with
    | some image => image.database
    | none => .error .foreign
  | .error .directory => .error .directory
  | .error _ => .error (.unopened path)

end WalletTools.Store
