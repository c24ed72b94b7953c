import WalletTools.Curve.Ed25519
import WalletTools.Ledger.Address
import WalletTools.MessagePack.Reader
import WalletTools.Text.Quoted

/-! What can be wrong with an address, a mnemonic, a transaction or a root key, and how it is told. -/
namespace WalletTools.Ledger

/-- The records that are decoded as a whole. -/
inductive RecordKind
  | transaction
  | signedTransaction
  | rootKey
deriving DecidableEq, Repr

def RecordKind.name : RecordKind → String
  | .transaction => "transaction"
  | .signedTransaction => "signed transaction"
  | .rootKey => "root key"

/-- The two fields of a root key record. -/
inductive RootKeyField
  | publicKey
  | secretKey
deriving DecidableEq, Repr

def RootKeyField.name : RootKeyField → String
  | .publicKey => "SignatureVerifier"
  | .secretKey => "SK"

/-- Why bytes are no record. -/
inductive DecodingFault
  | messagePack (fault : MessagePack.Fault)
  | trailing (count : Nat) (record : RecordKind)
  | unknownRootKeyField (name : String)
  | tooManyRootKeyFields (count : Nat)
  | missingRootKeyField (field : RootKeyField)
  | foreignRootKey
deriving DecidableEq, Repr

def DecodingFault.message : DecodingFault → String
  | .messagePack fault => fault.message
  | .trailing count record => s!"{count} trailing bytes after {record.name}"
  | .unknownRootKeyField name => s!"unknown root key field {Text.quote name}"
  | .tooManyRootKeyFields count => s!"too many root key fields: {count}"
  | .missingRootKeyField field => s!"root key without {field.name}"
  | .foreignRootKey => "root key seed does not match its public key"

/-- Why a record is no transaction that can be handled. -/
inductive TransactionFault
  | unsupportedField (name : String)
  | unsupportedType (name : String)
  | missingType
  | unsupportedSignedField (name : String)
  | missingTransaction
  | missingSignature
  | foreignSender (sender account : Address)
deriving DecidableEq

def TransactionFault.message : TransactionFault → String
  | .unsupportedField name => s!"unsupported field {Text.quote name}"
  | .unsupportedType name => s!"unsupported transaction type {Text.quote name}"
  | .missingType => "missing transaction type"
  | .unsupportedSignedField name => s!"unsupported signed transaction field {Text.quote name}"
  | .missingTransaction => "missing txn"
  | .missingSignature => "missing sig"
  | .foreignSender sender account =>
    s!"sender {sender.toText} does not match signing account {account.toText}"

inductive Error
  /-- The text is no address. -/
  | address (text : String) (fault : Address.Fault)
  /-- The text is built like an address, but its checksum belongs to another key. -/
  | addressChecksum (text : String)
  /-- A mnemonic has so many words. -/
  | mnemonicLength (expected actual : Nat)
  /-- A mnemonic has a word that is not in the list. -/
  | unknownWord (word : String)
  /-- A mnemonic's last word belongs to another key. -/
  | mnemonicChecksum
  /-- A mnemonic's words hold a number too large for a key. -/
  | mnemonicKeyLength
  /-- A public key or a signature is rejected. -/
  | signature (fault : Curve.Ed25519.Fault)
  /-- Bytes do not follow their record's form. -/
  | decoding (fault : DecodingFault)
  /-- A record holds what no payment holds. -/
  | transaction (fault : TransactionFault)
deriving DecidableEq

def Error.message : Error → String
  | .address text fault => s!"Invalid address: {fault.message text}"
  | .addressChecksum text => s!"Address checksum mismatch for {text}"
  | .mnemonicLength expected actual =>
    s!"Invalid mnemonic: expected {expected} words, got {actual}"
  | .unknownWord word => s!"Invalid mnemonic: unknown word {Text.quote word}"
  | .mnemonicChecksum => "Invalid mnemonic: checksum mismatch"
  | .mnemonicKeyLength => "Invalid mnemonic: does not encode a 32-byte key"
  | .signature fault => s!"Signature error: {fault.message}"
  | .decoding fault => s!"Decoding error: {fault.message}"
  | .transaction fault => s!"Invalid transaction: {fault.message}"

/-- The address that a text writes. -/
def Address.parse (text : String) : Except Error Address := do
  let (address, checksum) ← (Address.split text).mapError (.address text)
  if address.checksum ≠ checksum then throw (.addressChecksum text)
  return address

end WalletTools.Ledger
