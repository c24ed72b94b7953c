import WalletTools.Digest.Sha512
import WalletTools.Encoding.Base32
import WalletTools.Text.Utf8

/-! Addresses of accounts. An address is a public key; its text is the base 32 form of the key and
four bytes of the key's digest, so that a mistyped text is noticed. -/
namespace WalletTools.Ledger

/-- The public key of an account. -/
structure Address where
  publicKey : FixedBytes 32
deriving DecidableEq, Inhabited

namespace Address

/-- The address of a field that is left out. -/
def zero : Address := ⟨.zero 32⟩

def isZero (address : Address) : Bool := address.publicKey.isZero

/-- The last four bytes of the digest of the public key. -/
def checksum (address : Address) : Bytes :=
  (Digest.Sha512.hashHalf address.publicKey.toList).toList.drop 28

/-- The number of characters of an address. -/
def textLength : Nat := 58

def toText (address : Address) : String :=
  Base32.encode (address.publicKey.toList ++ address.checksum)

/-- Why a text is no address, its checksum apart. -/
inductive Fault
  | length (size : Nat)
  | base32 (fault : Base32.Fault)
  | decodedLength (size : Nat)
deriving DecidableEq, Repr

/-- What is said of a faulty text. -/
def Fault.message (text : String) : Fault → String
  | .length size => s!"{text} has length {size} (expected {textLength})"
  | .base32 fault => s!"{text}: {fault.message}"
  | .decodedLength size => s!"{text} decodes to {size} bytes (expected 36)"

/-- The key and the checksum that a text holds. -/
def split (text : String) : Except Fault (Address × Bytes) := do
  let symbols := Text.Utf8.encode text
  if symbols.length ≠ textLength then throw (.length symbols.length)
  let bytes ← (Base32.decode symbols).mapError .base32
  if sized : bytes.length = 36 then
    return (⟨.take 32 bytes (by omega)⟩, bytes.drop 32)
  else
    throw (.decodedLength bytes.length)

end Address

end WalletTools.Ledger
