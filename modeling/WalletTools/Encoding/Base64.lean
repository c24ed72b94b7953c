import WalletTools.Encoding.Symbols

/-! Base 64 text in the standard alphabet. Padding to whole groups of four symbols is required and
the last symbol's spare bits are zero, so a byte string has one text only. -/
namespace WalletTools.Base64

/-- The symbols, in the order of their values. -/
def alphabet : List Char :=
  "ABCDEFGHIJKLMNOPQRSTUVWXYZabcdefghijklmnopqrstuvwxyz0123456789+/".toList

open Radix

/-- The byte that pads the last group, the sign `=`. -/
def pad : UInt8 := 61

def encode (bytes : Bytes) : String :=
  let symbols := (regroup 6 bytes).map (symbol alphabet)
  String.ofList (symbols ++ List.replicate ((4 - symbols.length % 4) % 4) '=')

/-- Why a text is no base 64 text. Positions count bytes. -/
inductive Fault
  | byte (position : Nat) (found : UInt8)
  | length
  | lastSymbol (position : Nat) (found : UInt8)
  | padding
deriving DecidableEq, Repr

def Fault.message : Fault → String
  | .byte position found => s!"Invalid byte {found.toNat}, offset {position}."
  | .length => "Encoded text cannot have a 6-bit remainder."
  | .lastSymbol position found => s!"Invalid last symbol {found.toNat}, offset {position}."
  | .padding => "Invalid padding"

/-- The symbols' values in front of the padding, and the padding. A pad may stand only third or
fourth in the last group, and only pads may follow it. -/
def values (position : Nat) : Bytes → Except Fault (List Nat × Bytes)
  | [] => .ok ([], [])
  | byte :: rest =>
    match symbolValue? alphabet byte with
    | some value => (values (position + 1) rest).map fun (later, padding) => (value :: later, padding)
    | none =>
      if byte = pad ∧ 2 ≤ position % 4 ∧ position % 4 + rest.length < 4 ∧ rest.all (· == pad) then
        .ok ([], byte :: rest)
      else
        .error (.byte position byte)

/-- The bytes of a text. A length that leaves one symbol over is reported as a foreign last byte if
there is one; then come foreign bytes, missing padding and spare bits that are not zero. -/
def decode (text : Bytes) : Except Fault Bytes := do
  if text.length % 4 = 1 then
    match text.getLast? with
    | some last =>
      if last ≠ pad ∧ (symbolValue? alphabet last).isNone then throw (.byte (text.length - 1) last)
      throw .length
    | none => throw .length
  let (symbols, padding) ← values 0 text
  if (symbols.length + padding.length) % 4 ≠ 0 then throw .padding
  match ungroup? 6 symbols with
  | some bytes => return bytes
  | none => throw (.lastSymbol (symbols.length - 1) (text.getD (symbols.length - 1) 0))

end WalletTools.Base64
