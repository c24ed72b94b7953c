import WalletTools.Text.Utf16

/-! Charsets: how texts are written in bytes. A mark at the start of the bytes goes before the charset that
is told beside them. -/
namespace WalletTools.Text

/-- How texts are written: the text of any bytes. -/
structure Charset where
  decode : Bytes → String

namespace Charset

def utf8 : Charset := ⟨Utf8.decodeReplacing⟩

def utf16 (order : Utf16.Order) : Charset := ⟨Utf16.decodeReplacing order⟩

/-- The charset that a name in lower case means, where it is UTF-8 or UTF-16. -/
def named? (name : String) : Option Charset :=
  if ["utf-8", "utf8", "unicode-1-1-utf-8", "unicode11utf8", "unicode20utf8",
      "x-unicode20utf8"].contains name then some utf8
  else if ["utf-16", "utf-16le", "ucs-2", "unicode", "unicodefeff", "csunicode",
      "iso-10646-ucs-2"].contains name then some (utf16 .little)
  else if ["utf-16be", "unicodefffe"].contains name then some (utf16 .big)
  else none

/-- The text of any bytes, written as the mark at their start tells, and in the charset where there is
none. -/
def decodeMarked (charset : Charset) : Bytes → String
  | 0xff :: 0xfe :: rest => (utf16 .little).decode rest
  | 0xfe :: 0xff :: rest => (utf16 .big).decode rest
  | 0xef :: 0xbb :: 0xbf :: rest => utf8.decode (0xef :: 0xbb :: 0xbf :: rest)
  | bytes => charset.decode bytes

end Charset

end WalletTools.Text
