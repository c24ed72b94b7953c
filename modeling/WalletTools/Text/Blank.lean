import WalletTools.Text.CodeRanges

/-! Blank characters, those of the Unicode property `White_Space`, and the words between them. -/
namespace WalletTools.Text

/-- The characters that separate words. -/
def blanks : CodeRanges :=
  #[(9, 13), (32, 32), (133, 133), (160, 160), (5760, 5760), (8192, 8202), (8232, 8233),
    (8239, 8239), (8287, 8287), (12288, 12288)]

def isBlank (char : Char) : Bool := blanks.contains char

/-- The words of a text whose first word continues the characters in `word`, which are reversed. -/
def wordsFrom (word : List Char) : List Char → List String
  | [] => if word.isEmpty then [] else [String.ofList word.reverse]
  | char :: rest =>
    if isBlank char then
      if word.isEmpty then wordsFrom [] rest
      else String.ofList word.reverse :: wordsFrom [] rest
    else wordsFrom (char :: word) rest

/-- The longest runs of characters that are not blank, in order. -/
def words (text : String) : List String := wordsFrom [] text.toList

end WalletTools.Text
