import WalletTools.Ledger.SignedTransaction
import WalletTools.Node.Dialogue
import WalletTools.Node.Records

/-! Clients of a node. Every call is one request, whose reply alone decides the result. -/
namespace WalletTools.Node

/-- A client: the address of its node as it is given, without slashes at the end, and the token that
goes with every request. -/
structure Client where
  base : String
  token : String
deriving DecidableEq, Repr

/-- Calls of a client. -/
abbrev Call := ExceptT Error Dialogue

/-- A text without slashes at its end. -/
def trimSlashes (text : String) : String :=
  String.ofList (text.toList.reverse.dropWhile (· = '/')).reverse

/-- Whether a text can be the value of a header. -/
def isHeaderValue (text : String) : Bool :=
  (Text.Utf8.encode text).all fun byte => (32 ≤ byte && byte != 127) || byte = 9

namespace Client

/-- The client of the node at an address. -/
def ofAddress (address token : String) : Except Error Client :=
  match Url.parse address with
  | .error fault => .error (.invalidUrl address (some fault))
  | .ok url =>
    if url.isBase then .ok ⟨trimSlashes address, token⟩ else .error (.invalidUrl address none)

variable (client : Client)

/-- The request for an endpoint, if it can be sent: the endpoint is appended to the text of the
address, and the whole has to be a URL of the web. It may have any length here; a transport may refuse
one of more than 65534 bytes. -/
def request? (method : Method) (endpoint : String) (contentType? : Option String) (body : Bytes) :
    Option Request := do
  let url ← (Url.parse (client.base ++ endpoint)).toOption
  if (url.scheme = "http" || url.scheme = "https") && isHeaderValue client.token then
    return ⟨method, url, client.token, contentType?, body⟩
  else none

/-- Whether a status means success. -/
def isSuccess (status : Nat) : Bool := 200 ≤ status && status < 300

/-- What a reply means, where `parse` reads the body of a success. -/
def interpret {α : Type} (parse : String → Except Json.Fault α) : Reply → Except Error α
  | .dropped => .error .transport
  | .answer status charset body =>
    let text := charset.decodeMarked body
    if isSuccess status then (parse text).mapError fun fault => .invalidResponse (.json fault text)
    else
      match Refusal.shape.parse text with
      | .ok refusal => .error (.http status refusal.message)
      | .error _ => .error (.http status text)

/-- One request and what its reply means. -/
def call {α : Type} (parse : String → Except Json.Fault α) (method : Method) (endpoint : String)
    (contentType? : Option String) (body : Bytes) : Call α :=
  match client.request? method endpoint contentType? body with
  | none => throw .transport
  | some request => ExceptT.mk (interpret parse <$> Dialogue.request request)

/-- A request without a body. -/
def get {α : Type} (parse : String → Except Json.Fault α) (endpoint : String) : Call α :=
  client.call parse .get endpoint none []

def status : Call Status := client.get Status.shape.parse "/v2/status"

/-- The status of the node once it has seen a later round. -/
def statusAfterBlock (round : UInt64) : Call Status :=
  client.get Status.shape.parse s!"/v2/status/wait-for-block-after/{round}"

def account (address : Ledger.Address) : Call AccountInformation :=
  client.get AccountInformation.shape.parse s!"/v2/accounts/{address.toText}"

def transactionParams : Call TransactionParams :=
  client.get TransactionParams.shape.parse "/v2/transactions/params"

/-- Submits a transaction; gives its identifier. -/
def sendTransaction (signed : Ledger.SignedTransaction) : Call String :=
  Posted.id <$> client.call Posted.shape.parse .post "/v2/transactions"
    (some "application/x-binary") signed.encode

/-- A transaction as the node knows it. -/
def pendingTransaction (id : String) : Call Pending := do
  let record ← client.get Json.parse s!"/v2/transactions/pending/{id}"
  liftM (Pending.ofRecord record)

end Client

end WalletTools.Node
