import WalletTools.Ledger.Account

/-! Root keys of wallets: a public key and a secret key, whose first half is a seed. The record is a
map of the two, or an array that has them in this order. -/
namespace WalletTools.Ledger

structure RootKey where
  publicKey : FixedBytes 32
  secretKey : FixedBytes 64
deriving DecidableEq

namespace RootKey

open MessagePack

/-- A record while its fields are read. -/
structure Draft where
  publicKey? : Option (FixedBytes 32)
  secretKey? : Option (FixedBytes 64)
deriving DecidableEq

/-- Reads one entry of a map. -/
def readEntry (draft : Draft) : Decoder Draft := do
  match ← Decoder.read readStr with
  | "SignatureVerifier" => return { draft with publicKey? := some (← .read (readFixed 32)) }
  | "SK" => return { draft with secretKey? := some (← .read (readFixed 64)) }
  | other => throw (.decoding (.unknownRootKeyField other))

/-- Reads so many entries of a map. -/
def readEntries : (count : Nat) → Draft → Decoder Draft := Decoder.repeated readEntry

/-- Reads the elements of an array of so many. -/
def readElements : (count : Nat) → Decoder Draft
  | 0 => return ⟨none, none⟩
  | 1 => return ⟨some (← .read (readFixed 32)), none⟩
  | 2 => return ⟨some (← .read (readFixed 32)), some (← .read (readFixed 64))⟩
  | count => throw (.decoding (.tooManyRootKeyFields count))

/-- Reads a record in the form that its first bytes announce: where they are no header of a map, they
have to be one of an array. -/
def decoder : Decoder Draft := do
  let bytes ← get
  match (readMap.run bytes).1 with
  | .ok _ => readEntries (← .read readMap) ⟨none, none⟩
  | .error _ => readElements (← .read readArray)

/-- The root key that bytes hold. Bytes behind the record are noticed before a missing field. -/
def decode (bytes : Bytes) : Except Error RootKey := do
  let draft ← (decoder.whole .rootKey).decode bytes
  match draft.publicKey?, draft.secretKey? with
  | some publicKey, some secretKey => return ⟨publicKey, secretKey⟩
  | none, _ => throw (.decoding (.missingRootKeyField .publicKey))
  | some _, none => throw (.decoding (.missingRootKeyField .secretKey))

/-- The first half of the secret key. -/
def seed (key : RootKey) : FixedBytes 32 :=
  .take 32 key.secretKey.toList (by simp [key.secretKey.length_toList])

/-- The account of the seed, which has to have the public key of the record. -/
def account (key : RootKey) : Except Error Account :=
  let account : Account := ⟨key.seed⟩
  if account.address.publicKey ≠ key.publicKey then .error (.decoding .foreignRootKey)
  else .ok account

end RootKey

end WalletTools.Ledger
