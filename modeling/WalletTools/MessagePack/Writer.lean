import WalletTools.MessagePack.Family
import WalletTools.Radix
import WalletTools.Text.Utf8

/-! Values as MessagePack bytes, each in its shortest form. Lengths are written modulo `2 ^ 32`, the
format's limit. -/
namespace WalletTools.MessagePack

/-- The `width` bytes of a number, most significant first. -/
def bigEndian (width number : Nat) : Bytes := (Radix.toBytes width number).reverse

/-- A number behind the first marker of a family that has room for it. -/
def Family.write (family : Family) (number : Nat) : Bytes :=
  if number < family.count then [UInt8.ofNat (family.first + number)]
  else
    match family.wide.find? fun (_, width) => number < 256 ^ width with
    | some (marker, width) => marker :: bigEndian width number
    | none => []

/-- The header of a map with so many entries. -/
def writeMap (count : Nat) : Bytes := Family.map.write (count % 2 ^ 32)

def writeUInt (number : UInt64) : Bytes := Family.uint.write number.toNat

/-- A byte string, behind its length. -/
def writeBin (bytes : Bytes) : Bytes := Family.bin.write (bytes.length % 2 ^ 32) ++ bytes

/-- A text, behind its length in bytes. -/
def writeStr (text : String) : Bytes :=
  let bytes := Text.Utf8.encode text
  Family.str.write (bytes.length % 2 ^ 32) ++ bytes

end WalletTools.MessagePack
