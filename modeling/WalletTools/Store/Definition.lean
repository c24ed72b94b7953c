import WalletTools.Store.Database

/-! The columns of a table, from the statement that defines the table. -/
namespace WalletTools.Store

/-- A piece of a statement. -/
inductive Token
  | word (text : String)
  /-- A name between marks. -/
  | quoted (text : String)
  | sign (char : Char)
deriving DecidableEq, Repr

namespace Token

/-- A name up to the mark that closes it, and what follows; a doubled mark stands for itself. -/
def splitQuoted (mark : Char) : List Char → List Char × List Char
  | [] => ([], [])
  | [_] => ([], [])
  | first :: second :: rest =>
    if first ≠ mark then
      let (name, rest) := splitQuoted mark (second :: rest)
      (first :: name, rest)
    else if second = mark then
      let (name, rest) := splitQuoted mark rest
      (mark :: name, rest)
    else ([], second :: rest)

/-- What follows a remark between slashes and stars. -/
def skipRemark : List Char → List Char
  | [] => []
  | '*' :: '/' :: rest => rest
  | _ :: rest => skipRemark rest

def isWordChar (char : Char) : Bool := char.isAlphanum || char = '_' || char = '$' || 128 ≤ char.toNat

/-- At most `fuel` pieces of a statement. -/
def scan : (fuel : Nat) → List Char → List Token
  | 0, _ => []
  | _, [] => []
  | fuel + 1, char :: rest =>
    if char.toNat ≤ 0x20 then scan fuel rest
    else if char = '-' && rest.head? = some '-' then scan fuel (rest.dropWhile (· ≠ '\n'))
    else if char = '/' && rest.head? = some '*' then scan fuel (skipRemark (rest.drop 1))
    else if ['"', '\'', '\x60', '['].contains char then
      let (name, rest) := splitQuoted (if char = '[' then ']' else char) rest
      .quoted (String.ofList name) :: scan fuel rest
    else if isWordChar char then
      .word (String.ofList (char :: rest.takeWhile isWordChar)) :: scan fuel (rest.dropWhile isWordChar)
    else .sign char :: scan fuel rest

/-- Whether a piece is a word, in any case. -/
def isWord (expected : String) : Token → Bool
  | .word text => sameName text expected
  | _ => false

/-- The parts between the commas of a list, up to the bracket that closes it. -/
def parts (depth : Nat) : List Token → List (List Token)
  | [] => [[]]
  | token :: rest =>
    if depth = 0 && token = .sign ')' then [[]]
    else if depth = 0 && token = .sign ',' then [] :: parts 0 rest
    else
      let inner :=
        if token = .sign '(' then depth + 1 else if token = .sign ')' then depth - 1 else depth
      match parts inner rest with
      | [] => [[token]]
      | part :: more => (token :: part) :: more

end Token

/-- A column; one of them may hold the numbers that the rows go by. -/
structure Column where
  name : String
  isNumber : Bool
deriving DecidableEq, Repr

/-- The column that a part of a definition is about; the parts about the whole table begin with words
of their own. -/
def Column.ofPart? : List Token → Option Column
  | .quoted name :: rest => some ⟨name, isNumber rest⟩
  | .word name :: rest =>
    if ["CONSTRAINT", "PRIMARY", "UNIQUE", "CHECK", "FOREIGN"].any (sameName name) then none
    else some ⟨name, isNumber rest⟩
  | _ => none
where
  isNumber : List Token → Bool
    | first :: second :: third :: rest =>
      first.isWord "INTEGER" && second.isWord "PRIMARY" && third.isWord "KEY" &&
        !rest.head?.any (Token.isWord "DESC")
    | _ => false

/-- The columns in a statement that defines a table. -/
def columnsOf (statement : String) : List Column :=
  let tokens := Token.scan statement.length statement.toList
  (Token.parts 0 ((tokens.dropWhile (· ≠ .sign '(')).drop 1)).filterMap Column.ofPart?

end WalletTools.Store
