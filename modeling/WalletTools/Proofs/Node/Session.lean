import WalletTools.Proofs.Node.Errand
import WalletTools.Proofs.Text.Utf16

/-! Sessions: calls of one client, one after the other. Each is one request, and what comes of it hangs on
the reply to this request alone: neither a failure nor a success before it changes it. -/
namespace WalletTools.Node

/-! ## Replies -/

/-- What a reply comes to, where `parses` tells which bodies give an answer. -/
inductive Classified (parses : String → α → Prop) : Reply → Except Error α → Prop
  | dropped : Classified parses .dropped (.error .transport)
  | refused (failed : ¬ (200 ≤ status ∧ status < 300))
      (told : Refusal.shape.parse (charset.decodeMarked body) = .ok refusal) :
      Classified parses (.answer status charset body) (.error (.http status refusal.message))
  | unread (failed : ¬ (200 ≤ status ∧ status < 300))
      (untold : ∀ refusal, Refusal.shape.parse (charset.decodeMarked body) ≠ .ok refusal) :
      Classified parses (.answer status charset body) (.error (.http status (charset.decodeMarked body)))
  | answered (success : 200 ≤ status ∧ status < 300)
      (parsed : parses (charset.decodeMarked body) answer) :
      Classified parses (.answer status charset body) (.ok answer)
  | invalid (fault : ReplyFault) (success : 200 ≤ status ∧ status < 300)
      (unparsed : ∀ answer, ¬ parses (charset.decodeMarked body) answer) :
      Classified parses (.answer status charset body) (.error (.invalidResponse fault))

section

variable {parses : String → α → Prop} {reply : Reply} {outcome : Except Error α}

theorem isSuccess_iff {status : Nat} : Client.isSuccess status = true ↔ 200 ≤ status ∧ status < 300 := by
  simp [Client.isSuccess]

theorem classified_interpret (parse : String → Except Json.Fault α) (reply : Reply) :
    Classified (fun text answer => parse text = .ok answer) reply (Client.interpret parse reply) := by
  cases reply with
  | dropped => exact .dropped
  | answer status charset body =>
    unfold Client.interpret
    dsimp only
    split
    · rename_i success
      cases parsed : parse (charset.decodeMarked body) with
      | ok answer => exact .answered (isSuccess_iff.mp success) parsed
      | error fault =>
        exact .invalid _ (isSuccess_iff.mp success) fun answer same => by cases parsed.symm.trans same
    · rename_i failed
      rw [isSuccess_iff] at failed
      split
      · exact .refused failed ‹_›
      · rename_i untold
        exact .unread failed fun refusal same => by cases untold.symm.trans same

/-- An answer that is made of what is read. -/
theorem Classified.map {given : String → β → Prop} {change : α → β}
    (classified : Classified parses reply outcome)
    (made : ∀ text answer, given text answer ↔ ∃ value, parses text value ∧ answer = change value) :
    Classified given reply (change <$> outcome) := by
  cases classified with
  | dropped => exact .dropped
  | refused failed told => exact .refused failed told
  | unread failed untold => exact .unread failed untold
  | answered success parsed => exact .answered success ((made _ _).mpr ⟨_, parsed, rfl⟩)
  | invalid fault success unparsed =>
    refine .invalid fault success fun answer same => ?_
    obtain ⟨value, parsed, _⟩ := (made _ _).mp same
    exact unparsed value parsed

/-- A record that is read is a transaction if it is an object. -/
theorem Classified.ofRecord {outcome : Except Error Json}
    (classified : Classified (fun text record => Json.parse text = .ok record) reply outcome) :
    Classified (fun text pending => Json.parse text = .ok (Pending.record pending)) reply
      (outcome >>= Pending.ofRecord) := by
  cases classified with
  | dropped => exact .dropped
  | refused failed told => exact .refused failed told
  | unread failed untold => exact .unread failed untold
  | @answered _ record _ _ success parsed =>
    change Classified _ _ (Pending.ofRecord record)
    unfold Pending.ofRecord
    split
    · exact .answered success parsed
    · rename_i other
      refine .invalid _ success fun pending same => ?_
      cases parsed.symm.trans same
      exact other pending.object
  | invalid fault success unparsed => exact .invalid fault success fun pending => unparsed _

theorem isNotFound_http_iff {status : Nat} {message : String} :
    (Error.http status message).isNotFound = true ↔ status = 404 := by
  unfold Error.isNotFound
  split
  · rename_i same
    cases same
    exact iff_of_true rfl rfl
  · rename_i other
    exact iff_of_false nofun fun same => other message (by rw [same])

/-- Nothing is found just where the node says so by its status. -/
theorem Classified.isNotFound_iff (classified : Classified parses reply outcome) :
    (∃ error, outcome = .error error ∧ error.isNotFound = true) ↔
      ∃ charset body, reply = .answer 404 charset body := by
  have http {status : Nat} {charset : Text.Charset} {body : Bytes} {message : String} :
      (∃ error, (.error (.http status message) : Except Error α) = .error error ∧
        error.isNotFound = true) ↔
        ∃ named other, Reply.answer status charset body = .answer 404 named other := by
    constructor
    · intro given
      obtain ⟨_, same, found⟩ := given
      cases same
      exact ⟨charset, body, by rw [isNotFound_http_iff.mp found]⟩
    · intro given
      obtain ⟨_, _, same⟩ := given
      cases same
      exact ⟨_, rfl, isNotFound_http_iff.mpr rfl⟩
  have success {status : Nat} {charset : Text.Charset} {body : Bytes}
      (success : 200 ≤ status ∧ status < 300) :
      ¬ ∃ named other, Reply.answer status charset body = .answer 404 named other := by
    rintro ⟨_, _, same⟩
    cases same
    omega
  cases classified with
  | dropped => exact iff_of_false (by rintro ⟨_, same, found⟩; cases same; cases found) (by simp)
  | refused failed told => exact http
  | unread failed untold => exact http
  | answered ok parsed => exact iff_of_false (by simp) (success ok)
  | invalid fault ok unparsed =>
    exact iff_of_false (by rintro ⟨_, same, found⟩; cases same; cases found) (success ok)

end

/-! ## Calls -/

/-- The calls of a client that are one request. -/
inductive Query
  | status
  | statusAfterBlock (round : UInt64)
  | account (address : Ledger.Address)
  | transactionParams
  | sendTransaction (signed : Ledger.SignedTransaction)
  | pendingTransaction (id : String)

namespace Query

abbrev errand : Query → Errand
  | .status => .status
  | .statusAfterBlock round => .statusAfter round.toNat
  | .account address => .account address
  | .transactionParams => .params
  | .sendTransaction signed => .submit signed
  | .pendingTransaction id => .pending id

abbrev Answer (query : Query) : Type := query.errand.Answer

def call (client : Client) : (query : Query) → Call query.Answer
  | .status => client.status
  | .statusAfterBlock round => client.statusAfterBlock round
  | .account address => client.account address
  | .transactionParams => client.transactionParams
  | .sendTransaction signed => client.sendTransaction signed
  | .pendingTransaction id => client.pendingTransaction id

/-- The bodies that give an answer. -/
def Parses : (query : Query) → String → query.Answer → Prop
  | .status, text, answer => Status.shape.parse text = .ok answer
  | .statusAfterBlock _, text, answer => Status.shape.parse text = .ok answer
  | .account _, text, answer => AccountInformation.shape.parse text = .ok answer
  | .transactionParams, text, answer => TransactionParams.shape.parse text = .ok answer
  | .sendTransaction _, text, answer => Posted.shape.parse text = .ok ⟨answer⟩
  | .pendingTransaction _, text, answer => Json.parse text = .ok (Pending.record answer)

/-- What a call comes to by the reply to it. -/
def outcome (query : Query) (reply : Reply) : Except Error query.Answer := query.errand.read reply

theorem call_eq_perform (client : Client) (query : Query) :
    query.call client = client.perform query.errand := by
  cases query with
  | status => exact Client.status_eq_perform
  | statusAfterBlock round => exact Client.statusAfterBlock_eq_perform round
  | account address => exact Client.account_eq_perform address
  | transactionParams => exact Client.transactionParams_eq_perform
  | sendTransaction signed => exact Client.sendTransaction_eq_perform signed
  | pendingTransaction id => exact Client.pendingTransaction_eq_perform id

theorem classified_outcome (query : Query) (reply : Reply) :
    Classified query.Parses reply (query.outcome reply) := by
  cases query with
  | status => exact classified_interpret _ reply
  | statusAfterBlock round => exact classified_interpret _ reply
  | account address => exact classified_interpret _ reply
  | transactionParams => exact classified_interpret _ reply
  | sendTransaction signed =>
    refine (classified_interpret Posted.shape.parse reply).map fun text id => ?_
    constructor
    · intro parsed
      exact ⟨⟨id⟩, parsed, rfl⟩
    · intro given
      obtain ⟨⟨_⟩, parsed, rfl⟩ := given
      exact parsed
  | pendingTransaction id => exact (classified_interpret Json.parse reply).ofRecord

end Query

/-! ## Sessions -/

/-- A call and what it comes to. -/
abbrev Result := (query : Query) × Except Error query.Answer

/-- Calls one after the other, whatever comes of each. -/
def session (client : Client) : List Query → Dialogue (List Result)
  | [] => return []
  | query :: later => do
    let outcome ← (query.call client).run
    return ⟨query, outcome⟩ :: (← session client later)

section

variable {client : Client}

theorem Client.Sends.map_reply {visits : List Visit} {log : List Exchange}
    (sent : client.Sends visits log) : log.map (·.reply) = visits.map (·.2) := by
  induction sent with
  | nil => rfl
  | cons first _ ih => rw [List.map_cons, List.map_cons, first.2, ih]

/-- A call whose request can be sent is one exchange. -/
theorem conversation_call (query : Query) {request : Request} (reply : Reply)
    (requested : client.requestOf? query.errand = some request) :
    Conversation (query.call client).run [⟨request, reply⟩] (query.outcome reply) := by
  have able := (Client.exists_requestOf?_iff query.errand).mp ⟨request, requested⟩
  rw [query.call_eq_perform]
  exact (Client.follows_perform able query.errand _ _).mpr ⟨[(query.errand, reply)],
    Client.sends_cons_iff.mpr ⟨request, [], requested, .nil, rfl⟩, reply, rfl, rfl⟩

/-- What is asked in a session is one request for each call, and each result is that of the reply. -/
theorem conversation_session (able : client.CanSend) (visits : List (Query × Reply)) :
    ∃ log, client.Sends (visits.map fun visit => (visit.1.errand, visit.2)) log ∧
      Conversation (session client (visits.map (·.1))) log
        (visits.map fun visit => ⟨visit.1, visit.1.outcome visit.2⟩) := by
  induction visits with
  | nil => exact ⟨[], .nil, .done _⟩
  | cons visit visits ih =>
    obtain ⟨query, reply⟩ := visit
    obtain ⟨log, sent, asked⟩ := ih
    obtain ⟨request, requested⟩ := (Client.exists_requestOf?_iff query.errand).mpr able
    refine ⟨⟨request, reply⟩ :: log, Client.sends_cons_iff.mpr ⟨request, log, requested, sent, rfl⟩, ?_⟩
    refine conversation_bind_iff.mpr ⟨_, _, log, conversation_call query reply requested, ?_, rfl⟩
    exact conversation_map_iff.mpr ⟨_, asked, rfl⟩

/-- Calls are independent of each other: in a session each call is one request that carries the token,
and what it comes to is told by its own reply alone, in the same way for every call. -/
theorem session_classified (able : client.CanSend) (visits : List (Query × Reply)) (otherwise : Reply) :
    ∃ requests, (session client (visits.map (·.1))).play otherwise (visits.map (·.2)) =
        (visits.map fun visit => ⟨visit.1, visit.1.outcome visit.2⟩, requests) ∧
      List.Forall₂ (fun visit request => client.requestOf? visit.1.errand = some request ∧
        request.token = client.token) visits requests ∧
      ∀ visit ∈ visits, Classified visit.1.Parses visit.2 (visit.1.outcome visit.2) ∧
        ((∃ error, visit.1.outcome visit.2 = .error error ∧ error.isNotFound = true) ↔
          ∃ charset body, visit.2 = .answer 404 charset body) := by
  obtain ⟨log, sent, asked⟩ := conversation_session able visits
  have played := (conversation_iff_play otherwise).mp asked
  rw [sent.map_reply, List.map_map] at played
  refine ⟨log.map Exchange.request, played, ?_, fun visit _ => ?_⟩
  · refine List.forall₂_map_right_iff.mpr ((List.forall₂_map_left_iff.mp sent).imp ?_)
    intro visit exchange given
    exact ⟨given.1, (Client.eq_of_requestOf? given.1).2.1⟩
  · have classified := visit.1.classified_outcome visit.2
    exact ⟨classified, classified.isNotFound_iff⟩

/-- A status in UTF-16, behind a mark. -/
def markedReply : Reply := .answer 200 .utf8 (Text.Utf16.Order.little.mark ++
  Text.Utf16.encode .little "\x7b\"last-round\":1\x7d")

/-- A status in UTF-16, as its charset tells. -/
def namedReply : Reply := .answer 200 (.utf16 .big) (Text.Utf16.encode .big "[2]")

/-- A refusal with a message. -/
def busyReply : Reply := .answer 503 .utf8 (Text.Utf8.encode "\x7b\"message\":\"busy\"\x7d")

theorem outcome_markedReply : Query.status.outcome markedReply = .ok ⟨1, "", 0⟩ := by
  change Client.interpret Status.shape.parse markedReply = _
  refine Client.interpret_eq_ok_iff.mpr ⟨200, _, _, rfl, rfl, ?_⟩
  rw [Text.Charset.decodeMarked_encode]
  decide +kernel

theorem outcome_namedReply : (Query.statusAfterBlock 1).outcome namedReply = .ok ⟨2, "", 0⟩ := by
  change Client.interpret Status.shape.parse namedReply = _
  exact Client.interpret_eq_ok_iff.mpr ⟨200, _, _, rfl, rfl, by decide +kernel⟩

theorem outcome_busyReply : Query.transactionParams.outcome busyReply = .error (.http 503 "busy") := by
  have told : Refusal.shape.parse (Text.Charset.utf8.decodeMarked
      (Text.Utf8.encode "\x7b\"message\":\"busy\"\x7d")) = .ok ⟨"busy"⟩ := by decide +kernel
  change Client.interpret TransactionParams.shape.parse busyReply = _
  simp only [Client.interpret, busyReply, told]
  rfl

/-- A status from a body in UTF-16 by its mark and one by its charset, a refusal with a message, one
without, and a connection that is cut off, each by its own reply. -/
theorem session_classified_marked : localClient.CanSend ∧ ∃ requests refused,
    (session localClient
        [.status, .transactionParams, .pendingTransaction "id", .statusAfterBlock 1, .status]).play .dropped
        [markedReply, busyReply, .answer 404 .utf8 [], namedReply, .dropped] =
      ([⟨.status, .ok ⟨1, "", 0⟩⟩, ⟨.transactionParams, .error (.http 503 "busy")⟩,
        ⟨.pendingTransaction "id", .error refused⟩, ⟨.statusAfterBlock 1, .ok ⟨2, "", 0⟩⟩,
        ⟨.status, .error .transport⟩], requests) ∧
      requests.length = 5 ∧ refused.isNotFound = true := by
  obtain ⟨requests, played, sent, classified⟩ := session_classified localClient_canSend
    [(.status, markedReply), (.transactionParams, busyReply),
      (.pendingTransaction "id", .answer 404 .utf8 []), (.statusAfterBlock 1, namedReply),
      (.status, .dropped)] .dropped
  obtain ⟨refused, unknown, missing⟩ :=
    (classified (.pendingTransaction "id", .answer 404 .utf8 []) (by simp)).2.mpr ⟨.utf8, [], rfl⟩
  refine ⟨localClient_canSend, requests, refused, played.trans ?_, sent.length_eq.symm, missing⟩
  simp only [List.map_cons, List.map_nil, outcome_markedReply, outcome_busyReply, outcome_namedReply,
    unknown]
  rfl

end

end WalletTools.Node
