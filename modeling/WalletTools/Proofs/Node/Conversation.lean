import Mathlib.Logic.ExistsUnique
import WalletTools.Node.Dialogue

/-! Conversations: the requests that a program asks one after the other, the reply to each, and what the
program comes to. Whatever the replies are, there is one conversation with them; how a program is put
together of others tells how its conversations are. -/
namespace WalletTools.Node

private theorem bind_done_right (program : Dialogue α) : program.bind .done = program := by
  induction program with
  | done result => rfl
  | ask request next ih => exact congrArg (Dialogue.ask request) (funext ih)

private theorem bind_bind (program : Dialogue α) (next : α → Dialogue β) (last : β → Dialogue γ) :
    (program.bind next).bind last = program.bind fun value => (next value).bind last := by
  induction program with
  | done result => rfl
  | ask request rest ih => exact congrArg (Dialogue.ask request) (funext ih)

instance : LawfulMonad Dialogue :=
  .mk' Dialogue bind_done_right (fun _ _ => rfl) bind_bind

/-- A request and the reply to it. -/
structure Exchange where
  request : Request
  reply : Reply

/-- The exchanges of a program up to its result. -/
inductive Conversation {α : Type} : Dialogue α → List Exchange → α → Prop
  | done (result : α) : Conversation (.done result) [] result
  | ask (request : Request) (reply : Reply) (later : Conversation (next reply) log result) :
      Conversation (.ask request next) (⟨request, reply⟩ :: log) result

section

variable {α β : Type} {log : List Exchange}

theorem conversation_done_iff {value result : α} :
    Conversation (.done value) log result ↔ log = [] ∧ result = value := by
  constructor
  · intro conversation
    cases conversation
    exact ⟨rfl, rfl⟩
  · intro given
    obtain ⟨rfl, rfl⟩ := given
    exact .done _

theorem conversation_ask_iff {request : Request} {next : Reply → Dialogue α} {result : α} :
    Conversation (.ask request next) log result ↔
      ∃ reply rest, Conversation (next reply) rest result ∧ log = ⟨request, reply⟩ :: rest := by
  constructor
  · intro conversation
    cases conversation with
    | ask request reply later => exact ⟨reply, _, later, rfl⟩
  · intro given
    obtain ⟨reply, rest, later, rfl⟩ := given
    exact .ask request reply later

/-- A conversation of two programs is one of the first and then one of the second. -/
theorem conversation_bind_iff {program : Dialogue α} {next : α → Dialogue β} {result : β} :
    Conversation (program >>= next) log result ↔ ∃ value front back,
      Conversation program front value ∧ Conversation (next value) back result ∧ log = front ++ back := by
  induction program generalizing log with
  | done value =>
    rw [Dialogue.bind_done]
    constructor
    · intro later
      exact ⟨value, [], log, .done value, later, rfl⟩
    · intro given
      obtain ⟨_, front, back, first, later, rfl⟩ := given
      obtain ⟨rfl, rfl⟩ := conversation_done_iff.mp first
      exact later
  | ask request rest ih =>
    rw [Dialogue.bind_ask, conversation_ask_iff]
    constructor
    · intro given
      obtain ⟨reply, _, given, rfl⟩ := given
      obtain ⟨value, front, back, first, later, rfl⟩ := (ih reply).mp given
      exact ⟨value, ⟨request, reply⟩ :: front, back, .ask request reply first, later, rfl⟩
    · intro given
      obtain ⟨value, _, back, asked, later, rfl⟩ := given
      obtain ⟨reply, front, first, rfl⟩ := conversation_ask_iff.mp asked
      exact ⟨reply, front ++ back, (ih reply).mpr ⟨value, front, back, first, later, rfl⟩, rfl⟩

theorem conversation_map_iff {program : Dialogue α} {change : α → β} {result : β} :
    Conversation (change <$> program) log result ↔
      ∃ value, Conversation program log value ∧ result = change value := by
  change Conversation (program >>= fun value => .done (change value)) log result ↔ _
  rw [conversation_bind_iff]
  constructor
  · intro given
    obtain ⟨value, front, back, first, later, rfl⟩ := given
    obtain ⟨rfl, rfl⟩ := conversation_done_iff.mp later
    exact ⟨value, (List.append_nil front).symm ▸ first, rfl⟩
  · intro given
    obtain ⟨value, first, rfl⟩ := given
    exact ⟨value, log, [], first, .done _, (List.append_nil log).symm⟩

theorem conversation_request_iff {request : Request} {reply : Reply} :
    Conversation (Dialogue.request request) log reply ↔ log = [⟨request, reply⟩] := by
  unfold Dialogue.request
  rw [conversation_ask_iff]
  constructor
  · intro given
    obtain ⟨_, rest, later, rfl⟩ := given
    obtain ⟨rfl, rfl⟩ := conversation_done_iff.mp later
    rfl
  · intro same
    exact ⟨reply, [], .done reply, same⟩

/-! ## Any replies -/

/-- The replies of the exchanges are the first ones of a sequence. -/
def Answered : (replies : Nat → Reply) → List Exchange → Prop
  | _, [] => True
  | replies, exchange :: log =>
    exchange.reply = replies 0 ∧ Answered (fun index => replies (index + 1)) log

/-- Every sequence of replies leads to one conversation. -/
theorem existsUnique_conversation (program : Dialogue α) (replies : Nat → Reply) :
    ∃! run : List Exchange × α, Answered replies run.1 ∧ Conversation program run.1 run.2 := by
  induction program generalizing replies with
  | done value =>
    refine ⟨([], value), ⟨trivial, .done value⟩, fun run given => ?_⟩
    obtain ⟨empty, same⟩ := conversation_done_iff.mp given.2
    exact Prod.ext empty same
  | ask request next ih =>
    obtain ⟨run, ⟨answered, later⟩, only⟩ := ih (replies 0) fun index => replies (index + 1)
    refine ⟨(⟨request, replies 0⟩ :: run.1, run.2), ⟨⟨rfl, answered⟩, .ask request _ later⟩, ?_⟩
    intro other given
    obtain ⟨log, result⟩ := other
    obtain ⟨answered, given⟩ := given
    obtain ⟨reply, rest, later, rfl⟩ := conversation_ask_iff.mp given
    obtain ⟨rfl, answered⟩ := answered
    cases only (rest, result) ⟨answered, later⟩
    rfl

/-- The replies decide the exchanges of a program and what it comes to. -/
theorem conversation_unique {program : Dialogue α} {replies : Nat → Reply} {other : List Exchange}
    {value result : α} (answered : Answered replies log) (conversation : Conversation program log value)
    (also : Answered replies other) (again : Conversation program other result) :
    log = other ∧ value = result := by
  have same : (log, value) = (other, result) :=
    (existsUnique_conversation program replies).unique ⟨answered, conversation⟩ ⟨also, again⟩
  exact Prod.mk.inj same

/-- The replies of a sequence behind so many. -/
def behind (count : Nat) (replies : Nat → Reply) : Nat → Reply := fun index => replies (index + count)

theorem behind_behind (count more : Nat) (replies : Nat → Reply) :
    behind more (behind count replies) = behind (count + more) replies := by
  funext index
  rw [behind, behind, behind, Nat.add_assoc, Nat.add_comm more]

theorem answered_append_iff {replies : Nat → Reply} {front back : List Exchange} :
    Answered replies (front ++ back) ↔
      Answered replies front ∧ Answered (behind front.length replies) back := by
  induction front generalizing replies with
  | nil => exact (and_iff_right trivial).symm
  | cons exchange front ih => exact (and_congr_right fun _ => ih).trans and_assoc.symm

/-- The conversations of a program are its plays against as many replies as it asks for. -/
theorem conversation_iff_play {program : Dialogue α} {result : α} (otherwise : Reply) :
    Conversation program log result ↔
      program.play otherwise (log.map (·.reply)) = (result, log.map (·.request)) := by
  induction program generalizing log with
  | done value =>
    rw [conversation_done_iff, Dialogue.play, Prod.mk.injEq, eq_comm (a := result), eq_comm (a := []),
      List.map_eq_nil_iff, and_comm]
  | ask request next ih =>
    rw [conversation_ask_iff]
    cases log with
    | nil => simp [Dialogue.play]
    | cons exchange rest =>
      rw [List.map_cons, List.map_cons, Dialogue.play]
      constructor
      · intro given
        obtain ⟨reply, _, later, same⟩ := given
        cases same
        rw [(ih reply).mp later]
      · intro played
        obtain ⟨same, requests⟩ := Prod.mk.inj played
        obtain ⟨rfl, others⟩ := List.cons.inj requests
        exact ⟨exchange.reply, rest, (ih _).mpr (Prod.ext same others), rfl⟩

end

end WalletTools.Node
