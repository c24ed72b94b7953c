import WalletTools.Encoding.Hex
import WalletTools.Json.Tree

/-! Keystore documents: a private key encrypted under a key that is derived from a password. A record
in a document is an object, in which each of its members stands once and others are passed over, or an
array of just its values in their order. -/
namespace WalletTools.Keystore

/-- How the key is derived. The members given decide, not the name of a derivation. -/
inductive DerivationParams
  | pbkdf2 (rounds size : Nat) (salt : Bytes)
  | scrypt (size cost lanes blockFactor : Nat) (salt : Bytes)
deriving DecidableEq, Repr

/-- What is needed to decrypt a key. -/
structure Document where
  startBlock : Bytes
  ciphertext : Bytes
  derivation : DerivationParams
  mac : Bytes
deriving DecidableEq, Repr

/-- The one member of a name. -/
def onlyMember? (members : List (String × Json)) (name : String) : Option Json :=
  match members.filter (·.1 = name) with
  | [(_, value)] => some value
  | _ => none

/-- The values of the members of a record. -/
def recordValues? (names : List String) : Json → Option (List Json)
  | .object members => names.mapM (onlyMember? members)
  | .array elements => if elements.length = names.length then some elements else none
  | _ => none

/-- Bytes written in hexadecimal. -/
def bytes? (json : Json) : Option Bytes := json.text? >>= Hex.decode?

/-- A whole number below a limit. -/
def numberBelow? (limit : Nat) (json : Json) : Option Nat :=
  (json.natural?.map (·.toNat)).filter (· < limit)

/-- Whether a text is an identifier of 32 hexadecimal digits: with dashes between its groups, which
may be announced, or without. -/
def isIdentifier (text : String) : Bool :=
  let isDigits (chars : List Char) := chars.all fun char => (Hex.digitValue? char).isSome
  let chars := text.toList
  let announced := "urn:uuid:".toList
  let chars := if announced.isPrefixOf chars && chars.length = announced.length + 36 then
    chars.drop announced.length else chars
  let grouped := (String.ofList chars).splitOn "-"
  (chars.length = 32 && isDigits chars) ||
    (grouped.map String.length = [8, 4, 4, 4, 12] && grouped.all fun group => isDigits group.toList)

/-- Whether a value names a derivation: by a text, or by the one member of an object without value. -/
def isDerivationName : Json → Bool
  | .text name => name = "scrypt" || name = "pbkdf2"
  | .object [(name, .null)] => name = "scrypt" || name = "pbkdf2"
  | _ => false

/-- The parameters of a derivation, told by their names. -/
def DerivationParams.ofJson? : Json → Option DerivationParams
  | .object members =>
    let count (name : String) (limit : Nat) := onlyMember? members name >>= numberBelow? limit
    let salt? := onlyMember? members "salt" >>= bytes?
    let pbkdf2? := do
      let rounds ← count "c" (2 ^ 32)
      let size ← count "dklen" (2 ^ 8)
      let _ ← onlyMember? members "prf" >>= Json.text?
      return DerivationParams.pbkdf2 rounds size (← salt?)
    let scrypt? := do
      let size ← count "dklen" (2 ^ 8)
      let cost ← count "n" (2 ^ 32)
      let lanes ← count "p" (2 ^ 32)
      let blockFactor ← count "r" (2 ^ 32)
      return DerivationParams.scrypt size cost lanes blockFactor (← salt?)
    pbkdf2? <|> scrypt?
  | _ => none

/-- The encrypted part of a document. -/
def Document.ofCrypto? (json : Json) : Option Document := do
  let [cipher, cipherParams, ciphertext, name, params, mac] ← recordValues?
    ["cipher", "cipherparams", "ciphertext", "kdf", "kdfparams", "mac"] json | none
  let _ ← cipher.text?
  let [start] ← recordValues? ["iv"] cipherParams | none
  if !isDerivationName name then none
  return {
    startBlock := ← bytes? start
    ciphertext := ← bytes? ciphertext
    derivation := ← DerivationParams.ofJson? params
    mac := ← bytes? mac }

/-- The document of a value. -/
def Document.ofJson? (json : Json) : Option Document := do
  let [crypto, identifier, version] ← recordValues? ["crypto", "id", "version"] json | none
  let document ← Document.ofCrypto? crypto
  if !isIdentifier (← identifier.text?) then none
  let _ ← numberBelow? (2 ^ 8) version
  return document

end WalletTools.Keystore
