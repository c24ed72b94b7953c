import WalletTools.Ledger.Transaction

/-! Payments with the signature of their sender. -/
namespace WalletTools.Ledger

structure SignedTransaction where
  transaction : Transaction
  signature : FixedBytes 64
deriving DecidableEq

namespace SignedTransaction

open MessagePack

/-- The canonical bytes of a signed payment. -/
def encode (signed : SignedTransaction) : Bytes :=
  writeMap 2 ++ (writeStr "sig" ++ writeBin signed.signature.toList) ++
    (writeStr "txn" ++ signed.transaction.encode)

/-- A signed payment while its entries are read. -/
structure Draft where
  transaction? : Option Transaction
  signature? : Option (FixedBytes 64)
deriving DecidableEq

/-- Reads one entry. -/
def readEntry (draft : Draft) : Decoder Draft := do
  match ← Decoder.read readStr with
  | "sig" => return { draft with signature? := some (← .read (readFixed 64)) }
  | "txn" => return { draft with transaction? := some (← Transaction.decoder) }
  | other => throw (.transaction (.unsupportedSignedField other))

/-- Reads so many entries. -/
def readEntries : (count : Nat) → Draft → Decoder Draft := Decoder.repeated readEntry

/-- The signed payment that bytes hold. Bytes behind the map are noticed before a missing entry. -/
def decode (bytes : Bytes) : Except Error SignedTransaction := do
  let draft ← (Decoder.whole (do readEntries (← .read readMap) ⟨none, none⟩)
    .signedTransaction).decode bytes
  match draft.transaction?, draft.signature? with
  | some transaction, some signature => return ⟨transaction, signature⟩
  | none, _ => throw (.transaction .missingTransaction)
  | some _, none => throw (.transaction .missingSignature)

/-- The identifier of the payment. -/
def id (signed : SignedTransaction) : String := signed.transaction.id

/-- Whether the signature is the sender's. -/
def verify (signed : SignedTransaction) : Except Error Unit :=
  (Curve.Ed25519.verify signed.transaction.sender.publicKey signed.transaction.bytesToSign
    signed.signature).mapError .signature

end SignedTransaction

/-- The number of bytes a payment has once it is signed. -/
def Transaction.signedSize (transaction : Transaction) : Nat :=
  (SignedTransaction.encode ⟨transaction, .zero 64⟩).length

end WalletTools.Ledger
