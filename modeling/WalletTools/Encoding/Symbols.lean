import WalletTools.Radix

/-! Symbols that hold so many bits each, the most significant first. Where the last byte ends within a
symbol, zeros fill that symbol. An alphabet lists the symbols in the order of their values. -/
namespace WalletTools.Radix

/-- How many symbols bytes take. -/
def symbolCount (width count : Nat) : Nat := (8 * count + (width - 1)) / width

/-- How many whole bytes symbols hold. -/
def byteCount (width count : Nat) : Nat := width * count / 8

/-- The symbol values of bytes. -/
def regroup (width : Nat) (bytes : Bytes) : List Nat :=
  let count := symbolCount width bytes.length
  (digits (2 ^ width) count (ofBytes bytes.reverse * 2 ^ (width * count - 8 * bytes.length))).reverse

/-- The bytes of symbol values, if the bits beyond the last byte are zero. -/
def ungroup? (width : Nat) (symbols : List Nat) : Option Bytes :=
  let count := byteCount width symbols.length
  let spare := width * symbols.length - 8 * count
  let number := value (2 ^ width) symbols.reverse
  if number % 2 ^ spare = 0 then some (toBytes count (number / 2 ^ spare)).reverse else none

/-- The symbol of a value. -/
def symbol (alphabet : List Char) (value : Nat) : Char := alphabet.getD value 'A'

/-- The value of a symbol, given as the byte that writes it. -/
def symbolValue? (alphabet : List Char) (byte : UInt8) : Option Nat :=
  alphabet.findIdx? fun char => char.toNat == byte.toNat

end WalletTools.Radix
