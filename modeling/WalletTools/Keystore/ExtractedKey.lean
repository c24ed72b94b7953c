import WalletTools.Cipher.Aes
import WalletTools.Curve.Secp256k1
import WalletTools.Digest.Keccak
import WalletTools.Keystore.Document
import WalletTools.Keystore.Error
import WalletTools.Text.Quoted

/-! Private keys extracted from keystores. -/
namespace WalletTools.Keystore

/-- The address of a key. -/
abbrev Address := FixedBytes 20

/-- The text of an address. -/
def Address.toText (address : Address) : String := "0x" ++ Hex.encode address.toList

/-- A text without all the marks of hexadecimal in front. -/
def dropMarks : List Char → List Char
  | '0' :: 'x' :: rest => dropMarks rest
  | chars => chars

/-- The characters between the digits of an address. -/
def isGap (char : Char) : Bool := char = ' ' ∨ char = '\t' ∨ char = '\r' ∨ char = '\n'

/-- The address that a text writes. -/
def Address.parse? (text : String) : Option Address :=
  Hex.decodeChars? ((dropMarks text.toList).filter fun char => !isGap char) >>= FixedBytes.ofList?

def Address.parse (text : String) : Except Error Address :=
  match Address.parse? text with
  | some address => return address
  | none => throw (.address text)

/-- The address that a document names. A text that writes none counts for nothing. -/
def declaredAddress? (document : Json) : Option Address := do
  let text ← document.member? "address" >>= Json.text?
  match Address.parse text with
  | .ok address => return address
  | .error _ => none

/-- A private key, its address, and the address that its document names. -/
structure ExtractedKey where
  privateKey : FixedBytes 32
  address : Address
  declared? : Option Address
deriving DecidableEq

namespace ExtractedKey

/-- The private key in hexadecimal. -/
def hex (key : ExtractedKey) : String := Hex.encode key.privateKey.toList

/-- Whether the document does not name another address. -/
def matchesDeclared (key : ExtractedKey) : Bool := key.declared?.all (· = key.address)

/-- What may be shown of a key: its addresses, never the key. -/
def describe (key : ExtractedKey) : String :=
  let declared := match key.declared? with
    | some address => "Some(" ++ address.toText ++ ")"
    | none => "None"
  "ExtractedKey \x7b private_key: " ++ Text.quote "[REDACTED]" ++ ", address: " ++
    key.address.toText ++ ", declared_address: " ++ declared ++ " \x7d"

end ExtractedKey

/-! ## Decryption -/

/-- The key that a password gives. -/
def DerivationParams.derive (params : DerivationParams) (password : Bytes) :
    Except Derivation.Scrypt.Fault Bytes :=
  match params with
  | .pbkdf2 rounds size salt => .ok (Derivation.Pbkdf2.derive password salt rounds size)
  | .scrypt size cost lanes blockFactor salt =>
    Derivation.Scrypt.derive password salt ⟨cost.log2, blockFactor, lanes⟩ size

/-- Splits sixteen bytes off. -/
def sixteen? (bytes : Bytes) : Option (FixedBytes 16) := FixedBytes.ofList? (bytes.take 16)

/-- The bytes that a document holds under a password. The first half of the derived key is the
cipher's, the second half guards the ciphertext. -/
def Document.decrypt (document : Document) (password : Bytes) : Except Error Bytes := do
  let derived ← (document.derivation.derive password).mapError fun fault =>
    .decryption (.derivation fault)
  match sixteen? derived, sixteen? (derived.drop 16) with
  | some cipherKey, some guard =>
    if (Digest.Keccak.hash (guard.toList ++ document.ciphertext)).toList ≠ document.mac then
      throw (.decryption .mac)
    match sixteen? document.startBlock with
    | some start => return Cipher.Aes.applyCounter cipherKey start document.ciphertext
    | none => throw (.defect .startBlock)
  | _, _ => throw (.defect .derivedKey)

/-- The address of a private key. -/
def addressOf? (key : FixedBytes 32) : Option Address := do
  let publicKey ← Curve.Secp256k1.publicKey? key
  FixedBytes.ofList? ((Digest.Keccak.hash publicKey).toList.drop 12)

/-- The key that a keystore file holds under a password. -/
def extract (file : File) (password : String) : Except Error ExtractedKey := do
  let text ← file.text.mapError .file
  let json ← (Json.parse text).mapError .json
  match Document.ofJson? json with
  | none => throw (.decryption .document)
  | some document =>
    match FixedBytes.ofList? (← document.decrypt (Text.Utf8.encode password)) with
    | none => throw (.defect .privateKey)
    | some privateKey =>
      match addressOf? privateKey with
      | none => throw (.decryption .privateKey)
      | some address => return ⟨privateKey, address, declaredAddress? json⟩

end WalletTools.Keystore
