import WalletTools.Node.Confirmation
import WalletTools.Proofs.Except
import WalletTools.Proofs.Node.Conversation
import WalletTools.Proofs.Url.Appended

/-! Errands: what a client asks of its node. An errand is one request, and the reply alone decides what
comes of it. A client that cannot send one errand cannot send any. -/
namespace WalletTools.Node

/-- What a client can ask of its node. -/
inductive Errand
  | status
  | statusAfter (round : Nat)
  | account (address : Ledger.Address)
  | params
  | submit (signed : Ledger.SignedTransaction)
  | pending (id : String)
deriving DecidableEq

namespace Errand

def method : Errand → Method
  | .submit _ => .post
  | _ => .get

def endpoint : Errand → String
  | .status => "/v2/status"
  | .statusAfter round => s!"/v2/status/wait-for-block-after/{round}"
  | .account address => s!"/v2/accounts/{address.toText}"
  | .params => "/v2/transactions/params"
  | .submit _ => "/v2/transactions"
  | .pending id => s!"/v2/transactions/pending/{id}"

def contentType? : Errand → Option String
  | .submit _ => some "application/x-binary"
  | _ => none

def body : Errand → Bytes
  | .submit signed => signed.encode
  | _ => []

/-- What an errand brings back. -/
abbrev Answer : Errand → Type
  | .status => Status
  | .statusAfter _ => Status
  | .account _ => AccountInformation
  | .params => TransactionParams
  | .submit _ => String
  | .pending _ => Pending

/-- What the reply to an errand means. -/
def read : (errand : Errand) → Reply → Except Error errand.Answer
  | .status, reply => Client.interpret Status.shape.parse reply
  | .statusAfter _, reply => Client.interpret Status.shape.parse reply
  | .account _, reply => Client.interpret AccountInformation.shape.parse reply
  | .params, reply => Client.interpret TransactionParams.shape.parse reply
  | .submit _, reply => Posted.id <$> Client.interpret Posted.shape.parse reply
  | .pending _, reply => Client.interpret Json.parse reply >>= Pending.ofRecord

theorem isEndpoint (errand : Errand) : Url.IsEndpoint errand.endpoint := by
  cases errand with
  | status =>
    change Url.IsEndpoint "/v2/status"
    simp [Url.IsEndpoint]
  | statusAfter round =>
    have front : Url.IsEndpoint "/v2/status/wait-for-block-after/" := by simp [Url.IsEndpoint]
    exact front.append (toString round)
  | account address =>
    have front : Url.IsEndpoint "/v2/accounts/" := by simp [Url.IsEndpoint]
    exact front.append address.toText
  | params =>
    change Url.IsEndpoint "/v2/transactions/params"
    simp [Url.IsEndpoint]
  | submit signed =>
    change Url.IsEndpoint "/v2/transactions"
    simp [Url.IsEndpoint]
  | pending id =>
    have front : Url.IsEndpoint "/v2/transactions/pending/" := by simp [Url.IsEndpoint]
    exact front.append id

end Errand

/-- An errand and the reply to it. -/
abbrev Visit := Errand × Reply

/-- The replies of visits are the first ones of a sequence. -/
def Met : (replies : Nat → Reply) → List Visit → Prop
  | _, [] => True
  | replies, visit :: visits => visit.2 = replies 0 ∧ Met (fun index => replies (index + 1)) visits

/-- What is visited, and what comes of it. -/
abbrev Script (α : Type) := List Visit → α → Prop

/-- No visit, and one result only. -/
def Script.only (result : α) : Script α := fun visits other => visits = [] ∧ other = result

/-- The visits of one script, and then those of a script that depends on the first result. -/
def Script.andThen (script : Script α) (later : α → Script β) : Script β := fun visits result =>
  ∃ value front back, script front value ∧ later value back result ∧ visits = front ++ back

/-- The script that goes on with a success only. -/
def Script.orFail (later : α → Script (Except ε β)) : Except ε α → Script (Except ε β)
  | .ok value => later value
  | .error error => .only (.error error)

/-- The script of an errand: one visit, whose reply tells the result. -/
def Errand.script (errand : Errand) : Script (Except Error errand.Answer) := fun visits outcome =>
  ∃ reply, visits = [(errand, reply)] ∧ outcome = errand.read reply

namespace Client

/-- A success is a status of success and a body that is read. -/
theorem interpret_eq_ok_iff {parse : String → Except Json.Fault α} {reply : Reply} {value : α} :
    interpret parse reply = .ok value ↔ ∃ status charset body, reply = .answer status charset body ∧
      isSuccess status = true ∧ parse (charset.decodeMarked body) = .ok value := by
  cases reply with
  | dropped => exact ⟨nofun, fun given => by obtain ⟨_, _, _, same, _⟩ := given; cases same⟩
  | answer status charset body =>
    unfold interpret
    dsimp only
    constructor
    · intro success
      split at success
      · exact ⟨status, charset, body, rfl, ‹_›, mapError_eq_ok_iff.mp success⟩
      · split at success <;> cases success
    · intro given
      obtain ⟨_, _, _, same, success, parsed⟩ := given
      cases same
      rw [if_pos success]
      exact mapError_eq_ok_iff.mpr parsed

variable (client : Client)

/-- A client whose node is on the web and whose token can stand in a header. -/
def CanSend : Prop := Url.IsWebFront client.base ∧ isHeaderValue client.token = true

/-- The request of an errand, if it can be sent. -/
def requestOf? (errand : Errand) : Option Request :=
  client.request? errand.method errand.endpoint errand.contentType? errand.body

/-- The exchanges are those of the errands. -/
def Sends : List Visit → List Exchange → Prop :=
  List.Forall₂ fun visit exchange =>
    client.requestOf? visit.1 = some exchange.request ∧ visit.2 = exchange.reply

/-- An errand as a call. -/
def perform (errand : Errand) : Call errand.Answer :=
  match client.requestOf? errand with
  | none => throw .transport
  | some request => ExceptT.mk (errand.read <$> Dialogue.request request)

variable {client}

theorem request?_eq_some_iff {method : Method} {endpoint : String}
    {contentType? : Option String} {body : Bytes} {request : Request} :
    client.request? method endpoint contentType? body = some request ↔ ∃ url,
      Url.parse (client.base ++ endpoint) = .ok url ∧ (url.scheme = "http" ∨ url.scheme = "https") ∧
        isHeaderValue client.token = true ∧
        request = ⟨method, url, client.token, contentType?, body⟩ := by
  unfold request?
  rw [Option.bind_eq_bind, Option.bind_eq_some_iff]
  refine exists_congr fun url => ?_
  rw [toOption_eq_some_iff]
  refine and_congr_right fun _ => ?_
  rw [← and_assoc]
  have able : ((url.scheme = "http" || url.scheme = "https") && isHeaderValue client.token) = true ↔
      (url.scheme = "http" ∨ url.scheme = "https") ∧ isHeaderValue client.token = true := by simp
  by_cases sendable : ((url.scheme = "http" || url.scheme = "https") && isHeaderValue client.token) = true
  · rw [if_pos sendable]
    exact ⟨fun same => ⟨able.mp sendable, (Option.some.inj same).symm⟩, fun given =>
      congrArg some given.2.symm⟩
  · rw [if_neg sendable]
    exact ⟨nofun, fun given => absurd (able.mpr given.1) sendable⟩

/-- Whether a request can be sent does not hang on the errand. -/
theorem exists_requestOf?_iff (errand : Errand) :
    (∃ request, client.requestOf? errand = some request) ↔ client.CanSend := by
  have web := Url.isWeb_append_iff errand.isEndpoint client.base
  constructor
  · intro given
    obtain ⟨request, asked⟩ := given
    obtain ⟨url, parsed, named, header, _⟩ := request?_eq_some_iff.mp asked
    exact ⟨web.mp ⟨url, parsed, named⟩, header⟩
  · intro able
    obtain ⟨front, header⟩ := able
    obtain ⟨url, parsed, named⟩ := web.mpr front
    exact ⟨_, request?_eq_some_iff.mpr ⟨url, parsed, named, header, rfl⟩⟩

/-- A request carries what its errand asks for. -/
theorem eq_of_requestOf? {errand : Errand} {request : Request}
    (asked : client.requestOf? errand = some request) :
    request.method = errand.method ∧ request.token = client.token ∧
      request.contentType? = errand.contentType? ∧ request.body = errand.body := by
  obtain ⟨url, _, _, _, rfl⟩ := request?_eq_some_iff.mp asked
  exact ⟨rfl, rfl, rfl, rfl⟩

/-! ## Exchanges -/

theorem sends_nil_iff {log : List Exchange} : client.Sends [] log ↔ log = [] :=
  List.forall₂_nil_left_iff

theorem sends_cons_iff {errand : Errand} {reply : Reply} {visits : List Visit} {log : List Exchange} :
    client.Sends ((errand, reply) :: visits) log ↔ ∃ request rest,
      client.requestOf? errand = some request ∧ client.Sends visits rest ∧
        log = ⟨request, reply⟩ :: rest := by
  unfold Sends
  rw [List.forall₂_cons_left_iff]
  constructor
  · intro given
    obtain ⟨⟨request, _⟩, rest, ⟨asked, rfl⟩, later, rfl⟩ := given
    exact ⟨request, rest, asked, later, rfl⟩
  · intro given
    obtain ⟨request, rest, asked, later, rfl⟩ := given
    exact ⟨_, rest, ⟨asked, rfl⟩, later, rfl⟩

/-- The replies to errands are those of the exchanges. -/
theorem Sends.first_reply {errand : Errand} {reply : Reply} {visits : List Visit} {log : List Exchange}
    {replies : Nat → Reply} (sent : client.Sends ((errand, reply) :: visits) log)
    (answered : Answered replies log) : reply = replies 0 ∧ ∃ rest, client.Sends visits rest ∧
      Answered (fun index => replies (index + 1)) rest := by
  obtain ⟨request, rest, _, later, rfl⟩ := sends_cons_iff.mp sent
  exact ⟨answered.1, rest, later, answered.2⟩

theorem Sends.answered_iff {visits : List Visit} {log : List Exchange} {replies : Nat → Reply}
    (sent : client.Sends visits log) : Answered replies log ↔ Met replies visits := by
  induction sent generalizing replies with
  | nil => exact Iff.rfl
  | cons first _ ih =>
    unfold Answered Met
    rw [first.2, ih]

/-- A client that can send can visit its node for any errands. -/
theorem exists_sends (able : client.CanSend) (visits : List Visit) : ∃ log, client.Sends visits log := by
  induction visits with
  | nil => exact ⟨[], .nil⟩
  | cons visit visits ih =>
    obtain ⟨request, asked⟩ := (exists_requestOf?_iff visit.1).mpr able
    obtain ⟨log, sent⟩ := ih
    exact ⟨⟨request, visit.2⟩ :: log, .cons ⟨asked, rfl⟩ sent⟩

theorem Sends.exists_visit {visits : List Visit} {log : List Exchange} (sent : client.Sends visits log)
    {exchange : Exchange} (member : exchange ∈ log) : ∃ visit ∈ visits,
      client.requestOf? visit.1 = some exchange.request ∧ visit.2 = exchange.reply := by
  induction sent with
  | nil => cases member
  | cons first _ ih =>
    rcases List.mem_cons.mp member with rfl | member
    · exact ⟨_, List.mem_cons_self, first⟩
    · obtain ⟨visit, listed, asked⟩ := ih member
      exact ⟨visit, List.mem_cons_of_mem _ listed, asked⟩

theorem Sends.exists_exchange {visits : List Visit} {log : List Exchange} (sent : client.Sends visits log)
    {visit : Visit} (member : visit ∈ visits) : ∃ exchange ∈ log,
      client.requestOf? visit.1 = some exchange.request ∧ visit.2 = exchange.reply := by
  induction sent with
  | nil => cases member
  | cons first _ ih =>
    rcases List.mem_cons.mp member with rfl | member
    · exact ⟨_, List.mem_cons_self, first⟩
    · obtain ⟨exchange, listed, asked⟩ := ih member
      exact ⟨exchange, List.mem_cons_of_mem _ listed, asked⟩

theorem sends_append_iff {front back : List Visit} {log : List Exchange} :
    client.Sends (front ++ back) log ↔ ∃ before after,
      client.Sends front before ∧ client.Sends back after ∧ log = before ++ after := by
  induction front generalizing log with
  | nil =>
    constructor
    · intro later
      exact ⟨[], log, sends_nil_iff.mpr rfl, later, rfl⟩
    · intro given
      obtain ⟨_, after, none, later, rfl⟩ := given
      cases sends_nil_iff.mp none
      exact later
  | cons visit front ih =>
    rw [List.cons_append, sends_cons_iff]
    constructor
    · intro given
      obtain ⟨request, _, asked, given, rfl⟩ := given
      obtain ⟨before, after, first, later, rfl⟩ := ih.mp given
      exact ⟨_, after, sends_cons_iff.mpr ⟨request, before, asked, first, rfl⟩, later, rfl⟩
    · intro given
      obtain ⟨_, after, sent, later, rfl⟩ := given
      obtain ⟨request, before, asked, first, rfl⟩ := sends_cons_iff.mp sent
      exact ⟨request, before ++ after, asked, ih.mpr ⟨before, after, first, later, rfl⟩, rfl⟩

/-! ## Scripts -/

/-- The conversations of a program are those that a script tells. -/
def Follows (client : Client) (program : Dialogue α) (script : Script α) : Prop :=
  ∀ log result, Conversation program log result ↔
    ∃ visits, client.Sends visits log ∧ script visits result

theorem follows_done (result : α) : client.Follows (.done result) (.only result) := by
  intro log other
  rw [conversation_done_iff]
  constructor
  · intro given
    exact ⟨[], sends_nil_iff.mpr given.1, rfl, given.2⟩
  · intro given
    obtain ⟨_, sent, rfl, same⟩ := given
    exact ⟨sends_nil_iff.mp sent, same⟩

theorem Follows.bind {program : Dialogue α} {next : α → Dialogue β} {script : Script α}
    {later : α → Script β} (first : client.Follows program script)
    (rest : ∀ value, client.Follows (next value) (later value)) :
    client.Follows (program >>= next) (script.andThen later) := by
  intro log result
  rw [conversation_bind_iff]
  constructor
  · intro given
    obtain ⟨value, before, after, asked, given, rfl⟩ := given
    obtain ⟨front, sent, told⟩ := (first before value).mp asked
    obtain ⟨back, later, given⟩ := (rest value after result).mp given
    exact ⟨front ++ back, sends_append_iff.mpr ⟨before, after, sent, later, rfl⟩,
      value, front, back, told, given, rfl⟩
  · intro given
    obtain ⟨_, sent, value, front, back, told, given, rfl⟩ := given
    obtain ⟨before, after, asked, later, rfl⟩ := sends_append_iff.mp sent
    exact ⟨value, before, after, (first before value).mpr ⟨front, asked, told⟩,
      (rest value after result).mpr ⟨back, later, given⟩, rfl⟩

theorem Follows.run_bind {call : Call α} {next : α → Call β} {script : Script (Except Error α)}
    {later : α → Script (Except Error β)} (first : client.Follows call.run script)
    (rest : ∀ value, client.Follows (next value).run (later value)) :
    client.Follows (call >>= next).run (script.andThen (.orFail later)) := by
  rw [ExceptT.run_bind]
  refine first.bind fun outcome => ?_
  cases outcome with
  | ok value => exact rest value
  | error error => exact follows_done _

theorem Follows.congr {program : Dialogue α} {script other : Script α}
    (follows : client.Follows program script)
    (same : ∀ visits result, script visits result ↔ other visits result) :
    client.Follows program other := fun log result =>
  (follows log result).trans (exists_congr fun visits => and_congr_right fun _ => same visits result)

/-! ## Calls -/

/-- An errand that can be sent is one exchange. -/
theorem follows_perform (able : client.CanSend) (errand : Errand) :
    client.Follows (client.perform errand).run errand.script := by
  intro log outcome
  obtain ⟨request, asked⟩ := (exists_requestOf?_iff errand).mpr able
  have program : (client.perform errand).run = errand.read <$> Dialogue.request request := by
    rw [perform, asked]
    rfl
  rw [program, conversation_map_iff]
  constructor
  · intro given
    obtain ⟨reply, given, same⟩ := given
    obtain rfl := conversation_request_iff.mp given
    exact ⟨[(errand, reply)], sends_cons_iff.mpr ⟨request, [], asked, sends_nil_iff.mpr rfl, rfl⟩,
      reply, rfl, same⟩
  · intro given
    obtain ⟨_, sent, reply, rfl, same⟩ := given
    obtain ⟨_, _, again, none, rfl⟩ := sends_cons_iff.mp sent
    obtain rfl := Option.some.inj (asked.symm.trans again)
    obtain rfl := sends_nil_iff.mp none
    exact ⟨reply, conversation_request_iff.mpr rfl, same⟩

/-- A client that cannot send fails without a request. -/
theorem run_perform_of_unable (unable : ¬ client.CanSend) (errand : Errand) :
    (client.perform errand).run = .done (.error .transport) := by
  have lost : client.requestOf? errand = none := Option.eq_none_iff_forall_not_mem.mpr
    fun request asked => unable ((exists_requestOf?_iff errand).mp ⟨request, asked⟩)
  rw [perform, lost]
  rfl

theorem run_perform_bind_of_unable (unable : ¬ client.CanSend) (errand : Errand)
    (next : errand.Answer → Call α) :
    (client.perform errand >>= next).run = .done (.error .transport) := by
  rw [ExceptT.run_bind, run_perform_of_unable unable]
  rfl

theorem status_eq_perform : client.status = client.perform .status := rfl

theorem statusAfterBlock_eq_perform (round : UInt64) :
    client.statusAfterBlock round = client.perform (.statusAfter round.toNat) := rfl

theorem account_eq_perform (address : Ledger.Address) :
    client.account address = client.perform (.account address) := rfl

theorem transactionParams_eq_perform : client.transactionParams = client.perform .params := rfl

theorem sendTransaction_eq_perform (signed : Ledger.SignedTransaction) :
    client.sendTransaction signed = client.perform (.submit signed) := by
  have asked : client.request? .post "/v2/transactions" (some "application/x-binary") signed.encode =
    client.requestOf? (.submit signed) := rfl
  unfold sendTransaction call perform
  rw [asked]
  cases client.requestOf? (.submit signed) with
  | none => rfl
  | some request =>
    refine congrArg (Dialogue.ask request) (funext fun reply => ?_)
    change (Dialogue.done (interpret Posted.shape.parse reply) >>= _) = Dialogue.done (Posted.id <$> _)
    cases interpret Posted.shape.parse reply <;> rfl

theorem pendingTransaction_eq_perform (id : String) :
    client.pendingTransaction id = client.perform (.pending id) := by
  have asked : client.request? .get s!"/v2/transactions/pending/{id}" none [] =
    client.requestOf? (.pending id) := rfl
  unfold pendingTransaction get call perform
  rw [asked]
  cases client.requestOf? (.pending id) with
  | none => rfl
  | some request =>
    refine congrArg (Dialogue.ask request) (funext fun reply => ?_)
    change (Dialogue.done (interpret Json.parse reply) >>= _) = Dialogue.done (_ >>= Pending.ofRecord)
    cases interpret Json.parse reply <;> rfl

end Client

/-- A client of a node on the same machine. -/
def localClient : Client := ⟨"http://[::1]:8022", "token"⟩

theorem localClient_canSend : localClient.CanSend := by
  refine ⟨⟨"http", "//[::1]:8022".toList, by decide +kernel, .inl rfl, ?_⟩, by decide +kernel⟩
  exact ⟨(.ipv6 [0, 0, 0, 0, 0, 0, 0, 1], some 8022, []), by decide +kernel⟩

end WalletTools.Node
