import WalletTools.Ledger.Decoder
import WalletTools.MessagePack.Writer

/-! Payments and their bytes. A payment is written as a map with its keys in order, every field at its
zero value left out and every value in its shortest form; such a form exists once for each payment.
It is read from any map of the known fields, the last entry of a field counting. -/
namespace WalletTools.Ledger

/-- A payment. -/
structure Transaction where
  sender : Address
  receiver : Address
  amount : UInt64
  fee : UInt64
  firstValid : UInt64
  lastValid : UInt64
  genesisId : String
  genesisHash : FixedBytes 32
  note : Bytes
deriving DecidableEq

namespace Transaction

/-- The payment whose fields are all left out. -/
def blank : Transaction := ⟨.zero, .zero, 0, 0, 0, 0, "", .zero 32, []⟩

instance : Inhabited Transaction := ⟨blank⟩

/-- The name of the only type of transaction. -/
def paymentType : String := "pay"

open MessagePack

/-- An entry that is left out for the number zero. -/
def numberEntry (key : String) (number : UInt64) : List (String × Bytes) :=
  if number = 0 then [] else [(key, writeUInt number)]

/-- An entry that is left out for no bytes. -/
def bytesEntry (key : String) (bytes : Bytes) : List (String × Bytes) :=
  if bytes = [] then [] else [(key, writeBin bytes)]

/-- An entry that is left out for bytes that are all zero. -/
def keyEntry (key : String) (bytes : FixedBytes 32) : List (String × Bytes) :=
  if bytes.isZero then [] else [(key, writeBin bytes.toList)]

/-- An entry that is left out for the empty text. -/
def textEntry (key text : String) : List (String × Bytes) :=
  if text = "" then [] else [(key, writeStr text)]

/-- The entries of a payment's map, in the order of their keys. -/
def entries (transaction : Transaction) : List (String × Bytes) :=
  numberEntry "amt" transaction.amount ++
  numberEntry "fee" transaction.fee ++
  numberEntry "fv" transaction.firstValid ++
  textEntry "gen" transaction.genesisId ++
  keyEntry "gh" transaction.genesisHash ++
  numberEntry "lv" transaction.lastValid ++
  bytesEntry "note" transaction.note ++
  keyEntry "rcv" transaction.receiver.publicKey ++
  keyEntry "snd" transaction.sender.publicKey ++
  [("type", writeStr paymentType)]

/-- Whether each field is present, in the order of the keys; the type always is. -/
def presence (transaction : Transaction) : List Bool :=
  [transaction.amount ≠ 0, transaction.fee ≠ 0, transaction.firstValid ≠ 0, transaction.genesisId ≠ "",
    !transaction.genesisHash.isZero, transaction.lastValid ≠ 0, transaction.note ≠ [],
    !transaction.receiver.publicKey.isZero, !transaction.sender.publicKey.isZero, true]

/-- How many entries a payment's map has. -/
def entryCount (transaction : Transaction) : Nat := transaction.presence.count true

/-- The canonical bytes of a payment. -/
def encode (transaction : Transaction) : Bytes :=
  writeMap transaction.entryCount ++
    transaction.entries.flatMap fun (key, value) => writeStr key ++ value

/-- A payment while its entries are read, and the type read so far. -/
structure Draft where
  transaction : Transaction
  type? : Option String
deriving DecidableEq

/-- Reads one entry. -/
def readEntry (draft : Draft) : Decoder Draft := do
  let transaction := draft.transaction
  match ← Decoder.read readStr with
  | "amt" => return { draft with transaction := { transaction with amount := ← .read readUInt } }
  | "fee" => return { draft with transaction := { transaction with fee := ← .read readUInt } }
  | "fv" => return { draft with transaction := { transaction with firstValid := ← .read readUInt } }
  | "gen" => return { draft with transaction := { transaction with genesisId := ← .read readStr } }
  | "gh" =>
    return { draft with transaction := { transaction with genesisHash := ← .read (readFixed 32) } }
  | "lv" => return { draft with transaction := { transaction with lastValid := ← .read readUInt } }
  | "note" => return { draft with transaction := { transaction with note := ← .read readBin } }
  | "rcv" =>
    return { draft with transaction := { transaction with receiver := ⟨← .read (readFixed 32)⟩ } }
  | "snd" =>
    return { draft with transaction := { transaction with sender := ⟨← .read (readFixed 32)⟩ } }
  | "type" => return { draft with type? := some (← .read readStr) }
  | other => throw (.transaction (.unsupportedField other))

/-- Reads so many entries. -/
def readEntries : (count : Nat) → Draft → Decoder Draft := Decoder.repeated readEntry

/-- Reads a payment's map. -/
def decoder : Decoder Transaction := do
  let count ← .read readMap
  let draft ← readEntries count ⟨blank, none⟩
  match draft.type? with
  | none => throw (.transaction .missingType)
  | some type =>
    if type = paymentType then return draft.transaction
    else throw (.transaction (.unsupportedType type))

/-- The payment that bytes hold. -/
def decode (bytes : Bytes) : Except Error Transaction :=
  (decoder.whole .transaction).decode bytes

/-- The bytes that a signature of a payment covers. -/
def bytesToSign (transaction : Transaction) : Bytes := [0x54, 0x58] ++ transaction.encode

/-- The identifier of a payment: the base 32 form of the digest of the bytes to sign. -/
def id (transaction : Transaction) : String :=
  Base32.encode (Digest.Sha512.hashHalf transaction.bytesToSign).toList

end Transaction

end WalletTools.Ledger
