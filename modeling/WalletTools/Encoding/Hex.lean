import WalletTools.Bytes

/-! Hexadecimal text: two digits a byte, written in lower case and read in either. -/
namespace WalletTools.Hex

/-- The digit of a number below sixteen. -/
def digit (value : Nat) : Char :=
  if value < 10 then Char.ofNat (48 + value) else Char.ofNat (87 + value)

/-- The number a digit stands for, in either case. -/
def digitValue? (char : Char) : Option Nat :=
  if '0' ≤ char ∧ char ≤ '9' then some (char.toNat - 48)
  else if 'a' ≤ char ∧ char ≤ 'f' then some (char.toNat - 87)
  else if 'A' ≤ char ∧ char ≤ 'F' then some (char.toNat - 55)
  else none

/-- The two digits of a byte. -/
def encodeByte (byte : UInt8) : List Char := [digit (byte.toNat / 16), digit (byte.toNat % 16)]

def encode (bytes : Bytes) : String := String.ofList (bytes.flatMap encodeByte)

/-- The bytes of an even number of digits; nothing else is hexadecimal. -/
def decodeChars? : List Char → Option Bytes
  | [] => some []
  | [_] => none
  | high :: low :: rest => do
    let high ← digitValue? high
    let low ← digitValue? low
    let rest ← decodeChars? rest
    return UInt8.ofNat (16 * high + low) :: rest

def decode? (text : String) : Option Bytes := decodeChars? text.toList

end WalletTools.Hex
