import WalletTools.Derivation.Scrypt
import WalletTools.Files
import WalletTools.Json.Fault

/-! Why no key is extracted from a keystore. -/
namespace WalletTools.Keystore

/-- Why a document is not decrypted. -/
inductive DecryptionFault
  /-- The document is no keystore. -/
  | document
  | derivation (fault : Derivation.Scrypt.Fault)
  /-- The password is wrong, or the document has been changed. -/
  | mac
  /-- The number decrypted is no private key. -/
  | privateKey
deriving DecidableEq, Repr

/-- The wording, where it is not left to the reader of documents. -/
def DecryptionFault.message? : DecryptionFault → Option String
  | .document => none
  | .derivation fault => some fault.message
  | .mac => some "Mac Mismatch"
  | .privateKey => some "signature error"

/-- Sizes that the cipher cannot work with. They are no error that is told: the tool breaks off. -/
inductive Defect
  | derivedKey
  | startBlock
  | privateKey
deriving DecidableEq, Repr

inductive Error
  | file (fault : FileFault)
  | json (fault : Json.Fault)
  | decryption (fault : DecryptionFault)
  /-- A text writes no address. -/
  | address (text : String)
  | defect (defect : Defect)
deriving DecidableEq, Repr

/-- The wording, where it is not left to a reader. -/
def Error.message? : Error → Option String
  | .file fault => some s!"File error: {fault.message}"
  | .json _ => none
  | .decryption fault => fault.message?.map fun text => s!"Decryption error: {text}"
  | .address _ => none
  | .defect _ => none

end WalletTools.Keystore
