import WalletTools.Text.Unprintable
import WalletTools.Text.Extender

/-! Text in quotation marks, with every character made visible: marks, backslashes and the common
controls are escaped by a letter, and characters that would not show by their code. -/
namespace WalletTools.Text

/-- A code point as an escape. -/
def codeEscape (char : Char) : List Char :=
  ['\\', 'u', '{'] ++ Nat.toDigits 16 char.toNat ++ ['}']

/-- What stands for a character between quotation marks. -/
def quoteChar (char : Char) : List Char :=
  if char = '"' then ['\\', '"']
  else if char = '\\' then ['\\', '\\']
  else if char = '\n' then ['\\', 'n']
  else if char = '\r' then ['\\', 'r']
  else if char = '\t' then ['\\', 't']
  else if char.toNat = 0 then ['\\', '0']
  else if extenders.contains char || unprintables.contains char then codeEscape char
  else [char]

/-- A text between quotation marks. -/
def quote (text : String) : String :=
  String.ofList ('"' :: text.toList.flatMap quoteChar ++ ['"'])

end WalletTools.Text
