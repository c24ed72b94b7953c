import WalletTools.Text.Utf8

/-! Files as the tools meet them: bytes, or the reason why there are none. -/
namespace WalletTools

/-- Why a file cannot be read, or read as text. -/
inductive FileFault
  | missing
  | directory
  | notText
  /-- Anything else, in the words of the system. -/
  | other (message : String)
deriving DecidableEq, Repr

def FileFault.message : FileFault → String
  | .missing => "No such file or directory (os error 2)"
  | .directory => "Is a directory (os error 21)"
  | .notText => "stream did not contain valid UTF-8"
  | .other message => message

/-- What reading a file gives. -/
abbrev File := Except FileFault Bytes

/-- The text of a file. -/
def File.text (file : File) : Except FileFault String := do
  (Text.Utf8.decode (← file)).mapError fun _ => .notText

end WalletTools
