import WalletTools.Proofs.Tools.Submission

/-! Milestones of a transfer. The replies tell what the parties own, then that the submission is taken,
then that it is confirmed, and then again what the parties own. Each part of a transfer succeeds where the
replies that it meets reach its milestone, and nowhere else; it leaves the replies behind to the next. -/
namespace WalletTools.Tools

open Ledger Node

variable {client : Client} {output after : Output} {log : List Exchange} {replies : Nat → Reply}

/-! ## Parts of a command -/

/-- What is found in a sequence of replies, and the replies that are left. -/
abbrev Finding (α : Type) := (Nat → Reply) → α → (Nat → Reply) → Prop

/-- A command that writes nothing, and succeeds where something is found in the replies. -/
def Finds (command : Command Dialogue α) (finding : Finding α) : Prop :=
  ∀ output replies log outcome after, Answered replies log → Runs command output log outcome after →
    after = output ∧ ∀ value later,
      finding replies value later ↔ outcome = .ok value ∧ later = behind log.length replies

theorem Finds.congr {command : Command Dialogue α} {finding other : Finding α}
    (finds : Finds command finding)
    (same : ∀ replies value later, finding replies value later ↔ other replies value later) :
    Finds command other := by
  intro output replies log outcome after answered run
  obtain ⟨quiet, found⟩ := finds output replies log outcome after answered run
  exact ⟨quiet, fun value later => (same replies value later).symm.trans (found value later)⟩

theorem finds_pure (value : α) :
    Finds (pure value) fun replies result later => result = value ∧ later = replies := by
  intro output replies log outcome after _ run
  obtain ⟨rfl, rfl, rfl⟩ := runs_pure_iff.mp run
  refine ⟨rfl, fun result later => ?_⟩
  rw [Except.ok.injEq, eq_comm (a := value)]
  exact Iff.rfl

theorem finds_check (decision : Except Ledger.Error α) :
    Finds (check decision) fun replies value later => decision = .ok value ∧ later = replies := by
  intro output replies log outcome after _ run
  obtain ⟨rfl, rfl, rfl⟩ := runs_check_iff.mp run
  refine ⟨rfl, fun value later => ?_⟩
  rw [mapError_eq_ok_iff]
  exact Iff.rfl

theorem Finds.bind {command : Command Dialogue α} {next : α → Command Dialogue β} {finding : Finding α}
    {more : α → Finding β} (first : Finds command finding) (rest : ∀ value, Finds (next value) (more value)) :
    Finds (command >>= next) fun replies result last =>
      ∃ value later, finding replies value later ∧ more value later result last := by
  intro output replies log outcome after answered run
  rcases runs_bind_iff.mp run with ⟨error, begun, rfl⟩ | ⟨value, middle, front, back, begun, onward, rfl⟩
  · obtain ⟨quiet, found⟩ := first _ _ _ _ _ answered begun
    refine ⟨quiet, fun result last => ⟨fun given => ?_, nofun⟩⟩
    obtain ⟨value, later, given, _⟩ := given
    cases ((found value later).mp given).1
  · obtain ⟨told, answered⟩ := answered_append_iff.mp answered
    obtain ⟨rfl, found⟩ := first _ _ _ _ _ told begun
    obtain ⟨rfl, ended⟩ := rest value _ _ _ _ _ answered onward
    refine ⟨rfl, fun result last => ?_⟩
    rw [List.length_append, ← behind_behind, ← ended]
    constructor
    · intro given
      obtain ⟨_, later, given, onward⟩ := given
      obtain ⟨same, rfl⟩ := (found _ later).mp given
      cases same
      exact onward
    · intro given
      exact ⟨value, _, (found _ _).mpr ⟨rfl, rfl⟩, given⟩

/-- A call finds what its script tells of the replies. -/
theorem finds_ask {call : Call α} {script : Script (Except Node.Error α)} (able : client.CanSend)
    (follows : client.Follows call.run script) :
    Finds (ask call) fun replies value later => ∃ visits, script visits (.ok value) ∧
      Met replies visits ∧ later = behind visits.length replies := by
  intro output replies log outcome after answered run
  obtain ⟨found, asked, rfl, rfl⟩ := runs_ask_iff.mp run
  obtain ⟨visits, sent, told⟩ := (follows log found).mp asked
  refine ⟨rfl, fun value later => ?_⟩
  rw [mapError_eq_ok_iff]
  constructor
  · intro given
    obtain ⟨others, tells, met, rfl⟩ := given
    obtain ⟨other, goes⟩ := Client.exists_sends able others
    -- These visits can be made as well, so that they are those that the replies lead to.
    have again := (follows other (.ok value)).mpr ⟨others, goes, tells⟩
    obtain ⟨rfl, rfl⟩ := conversation_unique answered asked (goes.answered_iff.mpr met) again
    exact ⟨rfl, by rw [goes.length_eq]⟩
  · intro given
    obtain ⟨rfl, rfl⟩ := given
    exact ⟨visits, told, sent.answered_iff.mp answered, by rw [sent.length_eq]⟩

/-- A call whose only reply decides. -/
theorem finds_decided {call : Call α} {errand : Errand} {decide : Reply → Except Node.Error α}
    (able : client.CanSend) (follows : client.Follows call.run fun visits outcome =>
      ∃ reply, visits = [(errand, reply)] ∧ outcome = decide reply) :
    Finds (ask call) fun replies value later =>
      decide (replies 0) = .ok value ∧ later = behind 1 replies := by
  refine (finds_ask able follows).congr fun replies value later => ?_
  constructor
  · intro given
    obtain ⟨_, ⟨_, rfl, told⟩, ⟨rfl, _⟩, rfl⟩ := given
    exact ⟨told.symm, rfl⟩
  · intro given
    obtain ⟨told, rfl⟩ := given
    exact ⟨[(errand, replies 0)], ⟨_, rfl, told.symm⟩, ⟨rfl, trivial⟩, rfl⟩

/-- A part of a command either fails, where nothing is found, or leaves what is found and the replies
behind to what follows it. -/
theorem Finds.split {command : Command Dialogue α} {next : α → Command Dialogue β} {finding : Finding α}
    {outcome : Except Error β} (finds : Finds command finding) (answered : Answered replies log)
    (run : Runs (command >>= next) output log outcome after) :
    (after = output ∧ (∃ error, outcome = .error error) ∧ ∀ value later, ¬ finding replies value later) ∨
      ∃ value later rest, finding replies value later ∧ Answered later rest ∧
        Runs (next value) output rest outcome after := by
  rcases runs_bind_iff.mp run with ⟨error, begun, rfl⟩ | ⟨value, middle, front, back, begun, onward, rfl⟩
  · obtain ⟨quiet, found⟩ := finds _ _ _ _ _ answered begun
    exact .inl ⟨quiet, ⟨error, rfl⟩, fun value later given => nomatch ((found value later).mp given).1⟩
  · obtain ⟨told, answered⟩ := answered_append_iff.mp answered
    obtain ⟨rfl, found⟩ := finds _ _ _ _ _ told begun
    exact .inr ⟨value, _, back, (found _ _).mpr ⟨rfl, rfl⟩, answered, onward⟩

/-! ## What the parts find -/

/-- The first two replies tell what the parties own. -/
def AmountsTold (replies : Nat → Reply) (balances : Balances) : Prop :=
  ∃ sender receiver, Client.interpret AccountInformation.shape.parse (replies 0) = .ok sender ∧
    Client.interpret AccountInformation.shape.parse (replies 1) = .ok receiver ∧
    balances = ⟨sender.amount, receiver.amount⟩

theorem finds_fetchBalances (able : client.CanSend) (sender receiver : Address) :
    Finds (fetchBalances client sender receiver) fun replies balances later =>
      AmountsTold replies balances ∧ later = behind 2 replies := by
  have account (address : Address) : Finds (ask (client.account address)) fun replies found later =>
      (Errand.account address).read (replies 0) = .ok found ∧ later = behind 1 replies :=
    finds_decided able (Client.follows_perform able (.account address))
  refine ((account sender).bind fun _ => (account receiver).bind fun _ => finds_pure _).congr
    fun replies balances later => ?_
  constructor
  · intro given
    obtain ⟨senderFound, _, ⟨told, rfl⟩, receiverFound, _, ⟨also, rfl⟩, rfl, rfl⟩ := given
    exact ⟨⟨senderFound, receiverFound, told, also, rfl⟩, rfl⟩
  · intro given
    obtain ⟨⟨senderFound, receiverFound, told, also, rfl⟩, rfl⟩ := given
    exact ⟨senderFound, _, ⟨told, rfl⟩, receiverFound, _, ⟨also, rfl⟩, rfl, rfl⟩

/-- A reply accepts a submission: it is a success that gives it an identifier. -/
def Accepts (reply : Reply) (id : String) : Prop :=
  ∃ status charset body, reply = .answer status charset body ∧ Client.isSuccess status = true ∧
    Posted.shape.parse (charset.decodeMarked body) = .ok ⟨id⟩

theorem read_submit_eq_ok_iff {signed : SignedTransaction} {reply : Reply} {id : String} :
    (Errand.submit signed).read reply = .ok id ↔ Accepts reply id := by
  unfold Accepts
  rw [← Client.interpret_eq_ok_iff]
  change Posted.id <$> Client.interpret Posted.shape.parse reply = .ok id ↔ _
  cases Client.interpret Posted.shape.parse reply with
  | error error => exact ⟨nofun, nofun⟩
  | ok posted =>
    constructor
    · intro same
      cases same
      rfl
    · intro same
      cases same
      rfl

/-- What a transfer does between the balances and the identifier that it shows. -/
def submitting (client : Client) (request : Transfer.Request) (account : Account) (receiver : Address) :
    Command Dialogue (UInt64 × String) := do
  let params ← ask do liftM ((← client.transactionParams).toSuggested request.validityRounds)
  let transaction := Transaction.payment account.address receiver request.amount params
  let signed ← check (account.sign transaction)
  let id ← ask (client.sendTransaction signed)
  return (transaction.fee, id)

theorem pay_eq (client : Client) (request : Transfer.Request) (color : Bool) (account : Account)
    (receiver : Address) : pay client request color account receiver = (do
      let before ← fetchBalances client account.address receiver
      writeBalances color before
      let (fee, id) ← submitting client request account receiver
      settle client request color account receiver before fee id) := by
  unfold pay submitting
  simp only [bind_assoc, pure_bind]

theorem finds_submitting (able : client.CanSend) (request : Transfer.Request) (account : Account)
    (receiver : Address) : Finds (submitting client request account receiver) fun replies found later =>
      (∃ params, suggestedBy request.validityRounds (replies 0) = .ok params ∧
        found.1 = (Transaction.payment account.address receiver request.amount params).fee) ∧
      Accepts (replies 1) found.2 ∧ later = behind 2 replies := by
  have submits (signed : SignedTransaction) : Finds (ask (client.sendTransaction signed))
      fun replies id later => (Errand.submit signed).read (replies 0) = .ok id ∧
        later = behind 1 replies := by
    rw [Client.sendTransaction_eq_perform]
    exact finds_decided able (Client.follows_perform able (.submit signed))
  refine ((finds_decided able (follows_suggested able request.validityRounds)).bind fun params =>
    (finds_check (account.sign _)).bind fun signed => (submits signed).bind fun id =>
      finds_pure _).congr fun replies found later => ?_
  constructor
  · intro given
    obtain ⟨params, _, ⟨told, rfl⟩, _, _, ⟨_, rfl⟩, id, _, ⟨taken, rfl⟩, rfl, rfl⟩ := given
    exact ⟨⟨params, told, rfl⟩, read_submit_eq_ok_iff.mp taken, rfl⟩
  · intro given
    obtain ⟨fee, id⟩ := found
    obtain ⟨⟨params, told, rfl⟩, accepts, rfl⟩ := given
    exact ⟨params, _, ⟨told, rfl⟩, _, _, ⟨sign_payment .., rfl⟩, id, _,
      ⟨read_submit_eq_ok_iff.mpr accepts, rfl⟩, rfl, rfl⟩

/-! ## Milestones -/

section

variable (client : Client) (request : Transfer.Request) (replies : Nat → Reply)

/-- The client can send, the parties are known, and the first two replies tell what they own. -/
def BalancesTold (balances : Balances) : Prop :=
  client.CanSend ∧ (∃ account, Account.ofMnemonic request.senderMnemonic = .ok account) ∧
    (∃ receiver, Address.parse request.receiver = .ok receiver) ∧ AmountsTold replies balances

/-- Behind the balances, the third reply gives the parameters and the fourth accepts the submission. -/
def SubmissionAccepted (id : String) : Prop :=
  (∃ before, BalancesTold client request replies before) ∧
    (∃ params, suggestedBy request.validityRounds (replies 2) = .ok params) ∧ Accepts (replies 3) id

/-- Behind the submission, waiting for its confirmation brings a record, with so many replies up to then. -/
def ConfirmedAt (confirmation : Pending) (count : Nat) : Prop :=
  ∃ id visits, SubmissionAccepted client request replies id ∧
    Awaits id request.waitRounds visits (.ok confirmation) ∧ Met (behind 4 replies) visits ∧
    count = 4 + visits.length

/-- Behind the confirmation, the next two replies tell again what the parties own. -/
def BalancesToldAgain (balances : Balances) : Prop :=
  ∃ confirmation count, ConfirmedAt client request replies confirmation count ∧
    AmountsTold (behind count replies) balances

end

/-! ## No milestone is reached twice -/

theorem AmountsTold.unique {balances other : Balances} (told : AmountsTold replies balances)
    (also : AmountsTold replies other) : other = balances := by
  obtain ⟨_, _, first, second, rfl⟩ := told
  obtain ⟨_, _, same, again, rfl⟩ := also
  obtain rfl := Except.ok.inj (first.symm.trans same)
  obtain rfl := Except.ok.inj (second.symm.trans again)
  rfl

theorem Accepts.unique {reply : Reply} {id other : String} (accepts : Accepts reply id)
    (also : Accepts reply other) : other = id := by
  obtain ⟨_, _, _, rfl, _, parsed⟩ := accepts
  obtain ⟨_, _, _, same, _, again⟩ := also
  cases same
  cases parsed.symm.trans again
  rfl

/-- The replies decide how waiting for a confirmation goes on and what it comes to. -/
theorem awaits_unique (able : client.CanSend) {id : String} {waitRounds : UInt64}
    {visits others : List Visit} {result outcome : Except Node.Error Pending}
    (awaits : Awaits id waitRounds visits result) (met : Met replies visits)
    (also : Awaits id waitRounds others outcome) (again : Met replies others) :
    visits.length = others.length ∧ result = outcome := by
  have follows : client.Follows (client.awaitConfirmation id waitRounds).run (Awaits id waitRounds) :=
    Client.follows_awaitConfirmation able
  obtain ⟨log, sent⟩ := Client.exists_sends able visits
  obtain ⟨other, goes⟩ := Client.exists_sends able others
  obtain ⟨rfl, same⟩ := conversation_unique (sent.answered_iff.mpr met)
    ((follows log result).mpr ⟨visits, sent, awaits⟩) (goes.answered_iff.mpr again)
    ((follows other outcome).mpr ⟨others, goes, also⟩)
  exact ⟨sent.length_eq.trans goes.length_eq.symm, same⟩

variable {request : Transfer.Request}

theorem ConfirmedAt.unique {confirmation other : Pending} {count size : Nat}
    (confirmed : ConfirmedAt client request replies confirmation count)
    (also : ConfirmedAt client request replies other size) : other = confirmation ∧ size = count := by
  obtain ⟨id, visits, accepted, awaits, met, rfl⟩ := confirmed
  obtain ⟨_, others, accepted', awaits', met', rfl⟩ := also
  obtain rfl := accepted.2.2.unique accepted'.2.2
  obtain ⟨_, able, _⟩ := accepted.1
  obtain ⟨length, same⟩ := awaits_unique able awaits met awaits' met'
  cases same
  exact ⟨rfl, by rw [length]⟩

theorem BalancesToldAgain.unique {balances other : Balances}
    (told : BalancesToldAgain client request replies balances)
    (also : BalancesToldAgain client request replies other) : other = balances := by
  obtain ⟨_, _, confirmed, amounts⟩ := told
  obtain ⟨_, _, again, amounts'⟩ := also
  obtain ⟨_, rfl⟩ := confirmed.unique again
  exact amounts.unique amounts'

/-- A record that is waited for is one of a confirmed transaction. -/
theorem ConfirmedAt.exists_confirmedIn {confirmation : Pending} {count : Nat}
    (confirmed : ConfirmedAt client request replies confirmation count) :
    ∃ round, confirmation.ConfirmedIn round := by
  obtain ⟨_, _, _, awaits, _⟩ := confirmed
  cases awaits with
  | answered _ first =>
    cases first with
    | lookup _ _ _ decides =>
      cases decides with
      | confirmed _ confirmed => exact ⟨_, confirmed⟩

/-! ## What is submitted -/

/-- Among the exchanges is a submission, and the reply to it accepts it. -/
def PostedWith (log : List Exchange) (id : String) : Prop :=
  ∃ exchange ∈ log, exchange.request.method = .post ∧ Accepts exchange.reply id

/-- The submission is accepted where the exchanges of the transfer have it accepted. -/
theorem postedWith_iff {color : Bool} {outcome : Except Error TransferReport} {written : Bytes}
    (answered : Answered replies log)
    (run : Conversation ((transfer client request color).start none) log (outcome, written))
    {id : String} : PostedWith log id ↔ SubmissionAccepted client request replies id := by
  constructor
  · intro given
    obtain ⟨exchange, member, post, accepts⟩ := given
    obtain ⟨course, visits, sent, heeds, parties, _⟩ := exists_course run
    obtain ⟨visit, listed, asked, told⟩ := sent.exists_visit member
    have able := (Client.exists_requestOf?_iff visit.1).mp ⟨_, asked⟩
    obtain ⟨account, receiver⟩ := parties (List.ne_nil_of_mem listed)
    rw [(Client.eq_of_requestOf? asked).1] at post
    obtain ⟨_, _, _, _, later, rfl, rfl, first, second, third⟩ := heeds.submission listed post
    obtain ⟨rfl, rfl, rfl, rfl, _⟩ := sent.answered_iff.mp answered
    rw [← told] at accepts
    exact ⟨⟨course.before, able, ⟨_, account⟩, ⟨_, receiver⟩, _, _, first, second, rfl⟩, ⟨_, third⟩, accepts⟩
  · intro accepted
    obtain ⟨⟨_, able, ⟨_, sends⟩, ⟨_, receives⟩, _, _, first, second, _⟩, ⟨_, third⟩, accepts⟩ := accepted
    obtain ⟨course, visits, _, _, sent, _, walk, _⟩ := exists_walk run
    obtain ⟨_, walk⟩ := walk.decided sends
    obtain ⟨_, walk⟩ := walk.decided receives
    obtain ⟨_, _, _, rfl, walk, later, answered⟩ := (walk.pass able).told sent answered first
    obtain ⟨_, _, _, rfl, walk, later, answered⟩ := walk.told later answered second
    obtain ⟨_, _, _, rfl, walk, later, answered⟩ := walk.wrote.wrote.told later answered third
    obtain ⟨_, _, _, rfl, _⟩ := walk.told later answered (read_submit_eq_ok_iff.mpr accepts)
    obtain ⟨exchange, member, asked, told⟩ := sent.exists_exchange (List.mem_cons_of_mem _
      (List.mem_cons_of_mem _ (List.mem_cons_of_mem _ List.mem_cons_self)))
    exact ⟨exchange, member, (Client.eq_of_requestOf? asked).1, told ▸ accepts⟩

end WalletTools.Tools
