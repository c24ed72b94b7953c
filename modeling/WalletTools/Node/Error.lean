import WalletTools.Encoding.Base64
import WalletTools.Json.Tree
import WalletTools.Ledger.Error
import WalletTools.Url.Fault

/-! What can go wrong between a client and a node. -/
namespace WalletTools.Node

/-- Why a reply is not understood. -/
inductive ReplyFault
  /-- The body is not the JSON expected. -/
  | json (fault : Json.Fault) (body : String)
  | genesisHash (fault : Base64.Fault)
  | genesisHashSize (size : Nat)
  /-- The record of a transaction is no object. -/
  | record (value : Json)

/-- The wording, where it is not left to the reader of JSON. -/
def ReplyFault.message? : ReplyFault → Option String
  | .json .. => none
  | .genesisHash fault => some s!"Invalid genesis hash: {fault.message}"
  | .genesisHashSize size => some s!"Invalid genesis hash length: {size} (expected 32)"
  | .record value => some s!"Expected pending transaction object, got {value.compact}"

inductive Error
  /-- The address of a node is no URL, or one that no path can be appended to. -/
  | invalidUrl (address : String) (fault? : Option Url.Fault)
  /-- A request found no answer. -/
  | transport
  /-- The node answers with a status other than success. -/
  | http (status : Nat) (message : String)
  | invalidResponse (fault : ReplyFault)
  /-- The node has dropped a transaction. -/
  | rejected (id reason : String)
  /-- A transaction is not confirmed after so many rounds. -/
  | timeout (id : String) (rounds : UInt64)
  | ledger (error : Ledger.Error)

/-- Whether the node does not know what it is asked for. -/
def Error.isNotFound : Error → Bool
  | .http 404 _ => true
  | _ => false

/-- The wording, where it is not left to the transport or the reader of JSON. -/
def Error.message? : Error → Option String
  | .invalidUrl address (some fault) => some s!"Invalid node address {address}: {fault.message}"
  | .invalidUrl address none => some s!"Invalid node address {address}"
  | .transport => none
  | .http status message => some s!"Node returned HTTP {status}: {message}"
  | .invalidResponse fault => fault.message?.map fun text => s!"Invalid response from node: {text}"
  | .rejected id reason => some s!"Transaction {id} rejected: {reason}"
  | .timeout id rounds => some s!"Transaction {id} not confirmed after {rounds} rounds"
  | .ledger error => some s!"Protocol error: {error.message}"

end WalletTools.Node
