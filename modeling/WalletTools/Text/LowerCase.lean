import WalletTools.Text.Letters

/-! Lower case of a text by the full rules: the capital I with a dot becomes two characters, and a
capital sigma depends on whether it ends a word. -/
namespace WalletTools.Text

def isCased (char : Char) : Bool := casedLetters.contains char

def isCaseIgnorable (char : Char) : Bool := caseIgnorables.contains char

/-- The lower case of a character, wherever it stands. -/
def lowerChar (char : Char) : List Char :=
  if char.toNat < 128 then [char.toLower]
  else if char.toNat = 0x130 then ['i', Char.ofNat 0x307]
  else
    let code := char.toNat
    match lowerRuns.find? fun (first, last, step, _) =>
        first ≤ code && code ≤ last && (code - first) % step == 0 with
    | some (_, _, _, distance) => [Char.ofNat (Int.toNat (code + distance))]
    | none => [char]

/-- Whether the first character that is not passed over has case. -/
def meetsCased (chars : List Char) : Bool :=
  match chars.dropWhile isCaseIgnorable with
  | [] => false
  | char :: _ => isCased char

/-- The lower case of characters that follow others, those before being reversed. -/
def lowerFrom (before : List Char) : List Char → List Char
  | [] => []
  | char :: rest =>
    let lower :=
      if char.toNat = 0x3a3 then
        [Char.ofNat (if meetsCased before && !meetsCased rest then 0x3c2 else 0x3c3)]
      else lowerChar char
    lower ++ lowerFrom (char :: before) rest

def lowerCase (text : String) : String := String.ofList (lowerFrom [] text.toList)

end WalletTools.Text
