import WalletTools.Json.Numeral
import WalletTools.Text.Quoted

/-! Why a text is not the JSON that is read: it follows no grammar, it ends too early, or it holds
another value than the one expected. -/
namespace WalletTools.Json

/-- A value that is met. -/
inductive Found
  | null
  | boolean (value : Bool)
  | number (value : Number)
  | text (value : String)
  | sequence
  | map
deriving DecidableEq, Repr

def Found.message : Found → String
  | .null => "null"
  | .boolean value => s!"boolean `{value}`"
  | .number (.integer value) => s!"integer `{value}`"
  | .number (.float value) => s!"floating point `{String.ofList value.text}`"
  | .text value => s!"string {Text.quote value}"
  | .sequence => "sequence"
  | .map => "map"

/-- A value that is called for. -/
inductive Expected
  | count
  | text
  | record (title : String)
deriving DecidableEq, Repr

def Expected.message : Expected → String
  | .count => "u64"
  | .text => "a string"
  | .record title => s!"struct {title}"

/-- How a well-formed value differs from the one expected. -/
inductive Mismatch
  | kind (found : Found) (expected : Expected)
  | negative (value : Int)
  | missing (member : String)
  | duplicate (member : String)
  | short (count : Nat) (title : String) (size : Nat)
deriving DecidableEq, Repr

def Mismatch.message : Mismatch → String
  | .kind found expected => s!"invalid type: {found.message}, expected {expected.message}"
  | .negative value => s!"invalid value: integer `{value}`, expected u64"
  | .missing member => s!"missing field `{member}`"
  | .duplicate member => s!"duplicate field `{member}`"
  | .short count title size =>
    let elements := if size = 1 then "element" else "elements"
    s!"invalid length {count}, expected struct {title} with {size} {elements}"

/-- The first problem of a text, read from left to right. -/
inductive Fault
  | malformed
  | unfinished
  | mismatch (mismatch : Mismatch)
deriving DecidableEq, Repr

end WalletTools.Json
