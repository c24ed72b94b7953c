import WalletTools.Text.Charset
import WalletTools.Url.Parse

/-! Programs that talk to a node: each asks one request after the other, and what it asks next may
hang on the replies. A program is run against whatever gives replies: a list of them, a network that
is cut off, or a node. -/
namespace WalletTools.Node

/-- The methods of requests. -/
inductive Method
  | get
  | post
deriving DecidableEq, Repr

def Method.name : Method → String
  | .get => "GET"
  | .post => "POST"

/-- A request to a node. -/
structure Request where
  method : Method
  url : Url
  token : String
  contentType? : Option String
  body : Bytes
deriving DecidableEq, Repr

/-- The path that a request asks for. -/
def Request.path (request : Request) : String := String.ofList request.url.path.text

/-- What becomes of a request: the connection is lost, or a status and a body come back, with the charset
that its content type names, UTF-8 where it names none. This is the final answer to a call: redirections
are followed before it. -/
inductive Reply
  | dropped
  | answer (status : Nat) (charset : Text.Charset) (body : Bytes)

/-- A program whose result hangs on the replies to its requests. -/
inductive Dialogue (α : Type) : Type
  | done (result : α)
  | ask (request : Request) (next : Reply → Dialogue α)

namespace Dialogue

variable {α β : Type}

/-- Goes on with the result of a program. -/
def bind : Dialogue α → (α → Dialogue β) → Dialogue β
  | .done result, next => next result
  | .ask request rest, next => .ask request fun reply => (rest reply).bind next

instance : Monad Dialogue where
  pure := .done
  bind := bind

@[simp] theorem pure_eq_done (result : α) : (pure result : Dialogue α) = .done result := rfl

@[simp] theorem bind_done (result : α) (next : α → Dialogue β) :
    (Dialogue.done result >>= next) = next result := rfl

@[simp] theorem bind_ask (request : Request) (rest : Reply → Dialogue α) (next : α → Dialogue β) :
    (Dialogue.ask request rest >>= next) = .ask request fun reply => rest reply >>= next := rfl

/-- Asks one request. -/
def request (request : Request) : Dialogue Reply := .ask request .done

/-- The result of a program whose requests meet the replies of a list one by one, and then always the
same reply; and the requests. -/
def play (otherwise : Reply) : List Reply → Dialogue α → α × List Request
  | _, .done result => (result, [])
  | [], .ask request next =>
    let (result, requests) := (next otherwise).play otherwise []
    (result, request :: requests)
  | reply :: replies, .ask request next =>
    let (result, requests) := (next reply).play otherwise replies
    (result, request :: requests)

/-- The result of a program that reaches no node. -/
def offline : Dialogue α → α
  | .done result => result
  | .ask _ next => (next .dropped).offline

end Dialogue

end WalletTools.Node
