import WalletTools.Proofs.Node.Confirmation
import WalletTools.Tools.Transfer

/-! Itineraries: what a command asks and writes, in order, and which replies let it go on. A command that
travels by a route walks along an itinerary of the route up to the first step that fails; commands are put
together as their routes are. -/
namespace WalletTools.Tools

open Node

/-- A step of a command. -/
inductive Step
  /-- An errand, the replies that let the command go on, and those that end it. -/
  | ask (errand : Errand) (passes stops : Reply → Prop)
  | write (text : String)
  /-- What lets the command go on, and what ends it. -/
  | demand (holds fails : Prop)

/-- An errand whose reply gives a value. -/
def Step.reading (errand : Errand) (decide : Reply → Except ε α) (value : α) : Step :=
  .ask errand (fun reply => decide reply = .ok value) fun reply => ∃ error, decide reply = .error error

/-- A decision for a value. -/
def Step.deciding (decision : Except ε α) (value : α) : Step :=
  .demand (decision = .ok value) (∃ error, decision = .error error)

/-- What is visited along steps up to the first one that fails, the output before and after, and whether
no step fails. -/
inductive Walk : List Step → Output → List Visit → Output → (whole : Bool) → Prop
  | arrived : Walk [] output [] output true
  | answered (passed : passes reply) (later : Walk steps output visits after whole) :
      Walk (.ask errand passes stops :: steps) output ((errand, reply) :: visits) after whole
  | refused (failed : stops reply) :
      Walk (.ask errand passes stops :: steps) output [(errand, reply)] output false
  | written (room : output.hasRoom (Text.Utf8.encode text).length = true)
      (later : Walk steps (output.take (Text.Utf8.encode text)) visits after whole) :
      Walk (.write text :: steps) output visits after whole
  | full (room : output.hasRoom (Text.Utf8.encode text).length = false) :
      Walk (.write text :: steps) output [] (output.take (Text.Utf8.encode text)) false
  | met (held : holds) (later : Walk steps output visits after whole) :
      Walk (.demand holds fails :: steps) output visits after whole
  | unmet (failed : fails) : Walk (.demand holds fails :: steps) output [] output false

theorem Walk.append (first : Walk steps output visits middle true)
    (rest : Walk more middle others after whole) :
    Walk (steps ++ more) output (visits ++ others) after whole := by
  generalize ended : true = flag at first
  induction first with
  | arrived => exact rest
  | answered passed _ ih => exact .answered passed (ih rest ended)
  | written room _ ih => exact .written room (ih rest ended)
  | met held _ ih => exact .met held (ih rest ended)
  | refused => cases ended
  | full => cases ended
  | unmet => cases ended

theorem Walk.append_of_failed (first : Walk steps output visits after false) (more : List Step) :
    Walk (steps ++ more) output visits after false := by
  generalize ended : false = flag at first
  induction first with
  | arrived => cases ended
  | answered passed _ ih => exact .answered passed (ih ended)
  | written room _ ih => exact .written room (ih ended)
  | met held _ ih => exact .met held (ih ended)
  | refused failed => exact .refused failed
  | full room => exact .full room
  | unmet failed => exact .unmet failed

/-- Where anything is visited, a demand in front of it is met. -/
theorem Walk.held (walk : Walk (.demand holds fails :: steps) output visits after whole)
    (asked : visits ≠ []) : holds ∧ Walk steps output visits after whole := by
  cases walk with
  | met held later => exact ⟨held, later⟩
  | unmet => exact absurd rfl asked

theorem Walk.pass (walk : Walk (.demand holds (¬ holds) :: steps) output visits after whole)
    (held : holds) : Walk steps output visits after whole := by
  cases walk with
  | met _ later => exact later
  | unmet failed => exact absurd held failed

theorem Walk.decided {decision : Except ε α} {value found : α}
    (walk : Walk (.deciding decision value :: steps) output visits after whole)
    (known : decision = .ok found) : value = found ∧ Walk steps output visits after whole := by
  cases walk with
  | met held later => exact ⟨Except.ok.inj (held.symm.trans known), later⟩
  | unmet failed =>
    obtain ⟨error, failed⟩ := failed
    cases known.symm.trans failed

/-- An errand is asked in any case, and where the reply to it is known to be a success, the walk goes on
with the replies behind it. -/
theorem Walk.told {client : Client} {log : List Exchange} {replies : Nat → Reply}
    {decide : Reply → Except ε α} {value found : α}
    (walk : Walk (.reading errand decide value :: steps) output visits after whole)
    (sent : client.Sends visits log) (answered : Answered replies log)
    (known : decide (replies 0) = .ok found) : value = found ∧ ∃ later rest,
      visits = (errand, replies 0) :: later ∧ Walk steps output later after whole ∧
        client.Sends later rest ∧ Answered (fun index => replies (index + 1)) rest := by
  cases walk with
  | answered passed later =>
    obtain ⟨rfl, rest, behind, onward⟩ := sent.first_reply answered
    exact ⟨Except.ok.inj (passed.symm.trans known), _, rest, rfl, later, behind, onward⟩
  | refused stopped =>
    obtain ⟨rfl, _⟩ := sent.first_reply answered
    obtain ⟨error, failed⟩ := stopped
    cases known.symm.trans failed

/-- What is written finds room where there is no limit. -/
theorem Walk.wrote {bytes : Bytes} (walk : Walk (.write text :: steps) ⟨none, bytes⟩ visits after whole) :
    Walk steps ⟨none, bytes ++ Text.Utf8.encode text⟩ visits after whole := by
  cases walk with
  | written _ later => exact later
  | full room => cases room

/-! ## Requests -/

/-- An errand of an itinerary, and the replies that let the command go on. -/
structure Stage where
  errand : Errand
  passes : Reply → Prop

/-- The errands among steps. -/
def stages : List Step → List Stage
  | [] => []
  | .ask errand passes _ :: steps => ⟨errand, passes⟩ :: stages steps
  | .write _ :: steps => stages steps
  | .demand _ _ :: steps => stages steps

theorem stages_append (front back : List Step) : stages (front ++ back) = stages front ++ stages back := by
  induction front with
  | nil => rfl
  | cons step front ih => cases step <;> simp only [List.cons_append, stages, ih]

/-- The first errands of some stages, where every reply but the last lets the command go on. -/
inductive Heeds : List Stage → List Visit → Prop
  | none : Heeds path []
  | last : Heeds (stage :: path) [(stage.errand, reply)]
  | passed (passed : stage.passes reply) (later : Heeds path visits) :
      Heeds (stage :: path) ((stage.errand, reply) :: visits)

/-- All errands of some stages, where every reply lets the command go on. -/
def Completes : List Stage → List Visit → Prop :=
  List.Forall₂ fun stage visit => visit.1 = stage.errand ∧ stage.passes visit.2

theorem Completes.append {front back : List Stage} {visits : List Visit}
    (completes : Completes (front ++ back) visits) :
    ∃ before after, Completes front before ∧ Completes back after ∧ visits = before ++ after := by
  induction front generalizing visits with
  | nil => exact ⟨[], visits, .nil, completes, rfl⟩
  | cons stage front ih =>
    cases completes with
    | cons first later =>
      obtain ⟨before, after, passed, rest, rfl⟩ := ih later
      exact ⟨_ :: before, after, .cons first passed, rest, rfl⟩

/-- The first exchange of a completed path is one for its first stage. -/
theorem Completes.first {client : Client} {stage : Stage} {path : List Stage} {visits : List Visit}
    {log : List Exchange} (completes : Completes (stage :: path) visits)
    (sent : client.Sends visits log) : ∃ exchange later more,
      client.requestOf? stage.errand = some exchange.request ∧ stage.passes exchange.reply ∧
        Completes path later ∧ client.Sends later more ∧ log = exchange :: more := by
  cases completes with
  | @cons _ visit _ later passed rest =>
    obtain ⟨errand, reply⟩ := visit
    obtain ⟨rfl, passed⟩ := passed
    obtain ⟨request, more, asked, behind, rfl⟩ := Client.sends_cons_iff.mp sent
    exact ⟨⟨request, reply⟩, later, more, asked, passed, rest, behind, rfl⟩

theorem Walk.heeds (walk : Walk steps output visits after whole) : Heeds (stages steps) visits := by
  induction walk with
  | arrived => exact .none
  | answered passed _ ih => exact .passed passed ih
  | refused => exact .last
  | written _ _ ih => exact ih
  | full => exact .none
  | met _ _ ih => exact ih
  | unmet => exact .none

theorem Walk.completes (walk : Walk steps output visits after true) :
    Completes (stages steps) visits := by
  generalize ended : true = whole at walk
  induction walk with
  | arrived => exact .nil
  | answered passed _ ih => exact .cons ⟨rfl, passed⟩ (ih ended)
  | written _ _ ih => exact ih ended
  | met _ _ ih => exact ih ended
  | refused => cases ended
  | full => cases ended
  | unmet => cases ended

theorem Heeds.errands_prefix {path : List Stage} {visits : List Visit} (heeds : Heeds path visits) :
    visits.map (·.1) <+: path.map (·.errand) := by
  induction heeds with
  | none => exact List.nil_prefix
  | last => exact List.prefix_cons_inj _ |>.mpr List.nil_prefix
  | passed _ _ ih => exact (List.prefix_cons_inj _).mpr ih

/-! ## Commands -/

/-- The conversations of a command, by its output before and after. -/
def Runs (command : Command Dialogue α) (output : Output) (log : List Exchange)
    (outcome : Except Error α) (after : Output) : Prop :=
  Conversation ((ExceptT.run command).run output) log (outcome, after)

theorem runs_pure_iff {value : α} {output after : Output} {log : List Exchange}
    {outcome : Except Error α} :
    Runs (pure value) output log outcome after ↔ log = [] ∧ outcome = .ok value ∧ after = output := by
  change Conversation (.done (.ok value, output)) log (outcome, after) ↔ _
  rw [conversation_done_iff, Prod.mk.injEq]

theorem runs_throw_iff {error : Error} {output after : Output} {log : List Exchange}
    {outcome : Except Error α} :
    Runs (throw error) output log outcome after ↔ log = [] ∧ outcome = .error error ∧ after = output := by
  change Conversation (.done (.error error, output)) log (outcome, after) ↔ _
  rw [conversation_done_iff, Prod.mk.injEq]

theorem runs_bind_iff {command : Command Dialogue α} {next : α → Command Dialogue β}
    {output after : Output} {log : List Exchange} {outcome : Except Error β} :
    Runs (command >>= next) output log outcome after ↔
      (∃ error, Runs command output log (.error error) after ∧ outcome = .error error) ∨
      ∃ value middle front back, Runs command output front (.ok value) middle ∧
        Runs (next value) middle back outcome after ∧ log = front ++ back := by
  unfold Runs
  rw [ExceptT.run_bind, StateT.run_bind, conversation_bind_iff]
  constructor
  · intro given
    obtain ⟨⟨found, middle⟩, front, back, first, later, rfl⟩ := given
    cases found with
    | error error =>
      obtain ⟨rfl, same⟩ := conversation_done_iff.mp later
      cases same
      exact .inl ⟨error, (List.append_nil front).symm ▸ first, rfl⟩
    | ok value => exact .inr ⟨value, middle, front, back, first, later, rfl⟩
  · intro given
    rcases given with ⟨error, first, rfl⟩ | ⟨value, middle, front, back, first, later, rfl⟩
    · exact ⟨_, log, [], first, .done _, (List.append_nil log).symm⟩
    · exact ⟨_, front, back, first, later, rfl⟩

/-- A command as it is started. -/
theorem conversation_start_iff {command : Command Dialogue α} {limit? : Option Nat}
    {log : List Exchange} {outcome : Except Error α} {written : Bytes} :
    Conversation (command.start limit?) log (outcome, written) ↔
      ∃ after, Runs command (.empty limit?) log outcome after ∧ written = after.written := by
  unfold Command.start Runs
  rw [conversation_bind_iff]
  constructor
  · intro given
    obtain ⟨⟨found, after⟩, front, back, first, later, rfl⟩ := given
    obtain ⟨rfl, same⟩ := conversation_done_iff.mp later
    cases same
    exact ⟨after, (List.append_nil front).symm ▸ first, rfl⟩
  · intro given
    obtain ⟨after, first, rfl⟩ := given
    exact ⟨_, log, [], first, .done _, (List.append_nil log).symm⟩

theorem runs_writeLine_iff {text : String} {output after : Output} {log : List Exchange}
    {outcome : Except Error Unit} :
    Runs (writeLine text) output log outcome after ↔
      log = [] ∧ after = output.take (Text.Utf8.encode (text ++ "\n")) ∧
        outcome = if output.hasRoom (Text.Utf8.encode (text ++ "\n")).length then .ok ()
          else .error .output := by
  change Conversation (ExceptT.run (if !output.hasRoom (Text.Utf8.encode (text ++ "\n")).length then
    throw .output else pure () : Command Dialogue Unit) (output.take (Text.Utf8.encode (text ++ "\n"))))
    log (outcome, after) ↔ _
  cases output.hasRoom (Text.Utf8.encode (text ++ "\n")).length with
  | true => exact runs_pure_iff.trans (and_congr_right fun _ => and_comm)
  | false => exact runs_throw_iff.trans (and_congr_right fun _ => and_comm)

theorem runs_lift_iff {program : Dialogue α} {output after : Output} {log : List Exchange}
    {outcome : Except Error α} :
    Runs (liftM program) output log outcome after ↔
      ∃ value, Conversation program log value ∧ outcome = .ok value ∧ after = output := by
  have lifted : (ExceptT.run (liftM program : Command Dialogue α)).run output =
      (fun value => (.ok value, output)) <$> program := by
    rw [map_eq_pure_bind]
    exact bind_assoc program _ _
  unfold Runs
  rw [lifted, conversation_map_iff]
  simp only [Prod.mk.injEq]

theorem runs_ask_iff {call : Call α} {output after : Output} {log : List Exchange}
    {outcome : Except Error α} :
    Runs (ask call) output log outcome after ↔
      ∃ found, Conversation call.run log found ∧ after = output ∧ outcome = found.mapError .node := by
  unfold ask
  rw [runs_bind_iff]
  simp only [runs_lift_iff]
  constructor
  · intro given
    rcases given with ⟨_, ⟨_, _, failure, _⟩, _⟩ | ⟨found, _, front, back, ⟨_, asked, same, rfl⟩, later, rfl⟩
    · cases failure
    cases same
    refine ⟨found, ?_⟩
    cases found with
    | ok value =>
      obtain ⟨rfl, rfl, rfl⟩ := runs_pure_iff.mp later
      exact ⟨(List.append_nil front).symm ▸ asked, rfl, rfl⟩
    | error error =>
      obtain ⟨rfl, rfl, rfl⟩ := runs_throw_iff.mp later
      exact ⟨(List.append_nil front).symm ▸ asked, rfl, rfl⟩
  · intro given
    obtain ⟨found, asked, rfl, rfl⟩ := given
    refine .inr ⟨found, after, log, [], ⟨found, asked, rfl, rfl⟩, ?_, (List.append_nil log).symm⟩
    cases found with
    | ok value => exact runs_pure_iff.mpr ⟨rfl, rfl, rfl⟩
    | error error => exact runs_throw_iff.mpr ⟨rfl, rfl, rfl⟩

theorem runs_check_iff {decision : Except Ledger.Error α} {output after : Output} {log : List Exchange}
    {outcome : Except Error α} :
    Runs (check decision) output log outcome after ↔
      log = [] ∧ after = output ∧ outcome = decision.mapError .ledger := by
  cases decision with
  | ok value => exact runs_pure_iff.trans (and_congr_right fun _ => and_comm)
  | error error => exact runs_throw_iff.trans (and_congr_right fun _ => and_comm)

/-! ## Routes -/

/-- The itineraries that a command may take, by the values it comes to. -/
abbrev Route (α : Type) := List Step → α → Prop

/-- An itinerary of one route, and then one of a route that depends on the first value. -/
def Route.andThen (route : Route α) (later : α → Route β) : Route β := fun steps result =>
  ∃ value front back, route front value ∧ later value back result ∧ steps = front ++ back

/-- Every run of a command is a walk along an itinerary of the route: it succeeds, with the value of the
itinerary, where no step fails. -/
def Travels (client : Client) (command : Command Dialogue α) (route : Route α) : Prop :=
  ∀ output log outcome after, Runs command output log outcome after →
    ∃ steps value visits, route steps value ∧ client.Sends visits log ∧
      ((outcome = .ok value ∧ Walk steps output visits after true) ∨
        ∃ error, outcome = .error error ∧ Walk steps output visits after false)

variable {client : Client}

theorem travels_pure (value : α) :
    Travels client (pure value) fun steps other => steps = [] ∧ other = value := by
  intro output log outcome after run
  obtain ⟨rfl, rfl, rfl⟩ := runs_pure_iff.mp run
  exact ⟨[], value, [], ⟨rfl, rfl⟩, Client.sends_nil_iff.mpr rfl, .inl ⟨rfl, .arrived⟩⟩

theorem Travels.mono {command : Command Dialogue α} {route other : Route α}
    (travels : Travels client command route) (wider : ∀ steps value, route steps value → other steps value) :
    Travels client command other := by
  intro output log outcome after run
  obtain ⟨steps, value, visits, routed, walks⟩ := travels output log outcome after run
  exact ⟨steps, value, visits, wider steps value routed, walks⟩

/-- A command has some run, so that its route has some itinerary. -/
theorem Travels.exists_route {command : Command Dialogue α} {route : Route α}
    (travels : Travels client command route) : ∃ steps value, route steps value := by
  obtain ⟨run, ⟨_, conversation⟩, _⟩ :=
    existsUnique_conversation ((ExceptT.run command).run (.empty none)) fun _ => .dropped
  obtain ⟨steps, value, _, routed, _⟩ := travels _ _ _ _ conversation
  exact ⟨steps, value, routed⟩

theorem Travels.bind {command : Command Dialogue α} {next : α → Command Dialogue β} {route : Route α}
    {later : α → Route β} (first : Travels client command route)
    (rest : ∀ value, Travels client (next value) (later value)) :
    Travels client (command >>= next) (route.andThen later) := by
  intro output log outcome after run
  rcases runs_bind_iff.mp run with ⟨error, begun, rfl⟩ | ⟨value, middle, front, back, begun, later, rfl⟩
  · obtain ⟨steps, value, visits, routed, sent, ⟨success, _⟩ | ⟨_, _, walk⟩⟩ := first _ _ _ _ begun
    · cases success
    · -- No step behind a failure is taken, so that any itinerary of the later route may stand there.
      obtain ⟨more, result, follows⟩ := (rest value).exists_route
      exact ⟨steps ++ more, result, visits, ⟨value, steps, more, routed, follows, rfl⟩, sent,
        .inr ⟨error, rfl, walk.append_of_failed more⟩⟩
  · obtain ⟨steps, _, visits, routed, sent, ⟨same, walk⟩ | ⟨_, failure, _⟩⟩ := first _ _ _ _ begun
    · cases same
      obtain ⟨more, result, others, follows, asked, ends⟩ := rest value _ _ _ _ later
      refine ⟨steps ++ more, result, visits ++ others, ⟨value, steps, more, routed, follows, rfl⟩,
        Client.sends_append_iff.mpr ⟨front, back, sent, asked, rfl⟩, ?_⟩
      rcases ends with ⟨success, onward⟩ | ⟨error, failure, onward⟩
      · exact .inl ⟨success, walk.append onward⟩
      · exact .inr ⟨error, failure, walk.append onward⟩
    · cases failure

theorem travels_writeLine (text : String) :
    Travels client (writeLine text) fun steps _ => steps = [.write (text ++ "\n")] := by
  intro output log outcome after run
  obtain ⟨rfl, rfl, rfl⟩ := runs_writeLine_iff.mp run
  refine ⟨_, (), [], rfl, Client.sends_nil_iff.mpr rfl, ?_⟩
  cases room : output.hasRoom (Text.Utf8.encode (text ++ "\n")).length with
  | true => exact .inl ⟨rfl, .written room .arrived⟩
  | false => exact .inr ⟨_, rfl, .full room⟩

theorem travels_check [Inhabited α] (decision : Except Ledger.Error α) :
    Travels client (check decision) fun steps value => steps = [.deciding decision value] := by
  intro output log outcome after run
  obtain ⟨rfl, rfl, rfl⟩ := runs_check_iff.mp run
  cases decision with
  | ok value =>
    exact ⟨_, value, [], rfl, Client.sends_nil_iff.mpr rfl, .inl ⟨rfl, .met rfl .arrived⟩⟩
  | error error =>
    exact ⟨_, default, [], rfl, Client.sends_nil_iff.mpr rfl, .inr ⟨_, rfl, .unmet ⟨error, rfl⟩⟩⟩

/-- The visits of a call are walks along an itinerary of the route that writes nothing. -/
def Route.Tells (route : Route α) (script : Script (Except Node.Error α)) : Prop :=
  ∀ visits outcome, script visits outcome → ∃ steps value, route steps value ∧ ∀ output,
    (outcome = .ok value ∧ Walk steps output visits output true) ∨
      ∃ error, outcome = .error error ∧ Walk steps output visits output false

theorem travels_ask {call : Call α} {script : Script (Except Node.Error α)} {route : Route α}
    (follows : client.Follows call.run script) (tells : route.Tells script) :
    Travels client (ask call) route := by
  intro output log outcome after run
  obtain ⟨found, asked, rfl, rfl⟩ := runs_ask_iff.mp run
  obtain ⟨visits, sent, told⟩ := (follows log found).mp asked
  obtain ⟨steps, value, routed, walks⟩ := tells visits found told
  refine ⟨steps, value, visits, routed, sent, ?_⟩
  rcases walks after with ⟨rfl, walk⟩ | ⟨error, rfl, walk⟩
  · exact .inl ⟨rfl, walk⟩
  · exact .inr ⟨_, rfl, walk⟩

/-- An errand whose reply decides. -/
theorem tells_visit [Inhabited α] (errand : Errand) (decide : Reply → Except Node.Error α) :
    Route.Tells (fun steps value => steps = [.reading errand decide value])
      fun visits outcome => ∃ reply, visits = [(errand, reply)] ∧ outcome = decide reply := by
  intro _ outcome told
  obtain ⟨reply, rfl, same⟩ := told
  cases outcome with
  | ok value => exact ⟨_, value, rfl, fun output => .inl ⟨rfl, .answered same.symm .arrived⟩⟩
  | error error =>
    exact ⟨_, default, rfl, fun output => .inr ⟨error, rfl, .refused ⟨error, same.symm⟩⟩⟩

end WalletTools.Tools
