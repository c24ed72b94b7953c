import WalletTools.Encoding.Symbols

/-! Base 32 text without padding: five bits a symbol. The last symbol's spare bits are zero, so a byte
string has one text only. -/
namespace WalletTools.Base32

/-- The symbols, in the order of their values. -/
def alphabet : List Char := "ABCDEFGHIJKLMNOPQRSTUVWXYZ234567".toList

open Radix

def encode (bytes : Bytes) : String := String.ofList ((regroup 5 bytes).map (symbol alphabet))

/-- Why a text is no base 32 text. Positions count bytes. -/
inductive Fault
  | length (position : Nat)
  | symbol (position : Nat)
  | trailingBits (position : Nat)
deriving DecidableEq, Repr

def Fault.message : Fault → String
  | .length position => s!"invalid length at {position}"
  | .symbol position => s!"invalid symbol at {position}"
  | .trailingBits position => s!"non-zero trailing bits at {position}"

/-- The values of the symbols, or the position of the first byte that is none. -/
def values (position : Nat) : Bytes → Except Fault (List Nat)
  | [] => .ok []
  | byte :: rest =>
    match symbolValue? alphabet byte with
    | none => .error (.symbol position)
    | some value => (values (position + 1) rest).map (value :: ·)

/-- The bytes of a text: its length has to be one that bytes produce, its symbols have to be of the
alphabet, and the bits beyond the last byte have to be zero, in that order. -/
def decode (text : Bytes) : Except Fault Bytes := do
  if symbolCount 5 (byteCount 5 text.length) ≠ text.length then
    throw (.length (text.length - text.length % 8))
  match ungroup? 5 (← values 0 text) with
  | some bytes => return bytes
  | none => throw (.trailingBits (text.length - 1))

end WalletTools.Base32
