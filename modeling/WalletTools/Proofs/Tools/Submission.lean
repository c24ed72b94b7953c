import WalletTools.Proofs.Ledger.Account
import WalletTools.Proofs.Ledger.Address
import WalletTools.Proofs.Ledger.RoundTrip
import WalletTools.Proofs.Node.Suggested
import WalletTools.Proofs.Tools.Transfer

/-! Submissions. A transfer submits at most once and in its place, and what it submits is the payment that
is asked for, signed by the account that is asked for. -/
namespace WalletTools.Tools

open Ledger Node

/-! ## Stages -/

/-- Lookups that leave the matter open and waits that succeed, from a round on. -/
def pollStages (id : String) : (round count : Nat) → List Stage
  | _, 0 => []
  | round, count + 1 =>
    ⟨.pending id, Undecided id⟩ ::
    ⟨.statusAfter round, fun reply => ∃ status, (Errand.statusAfter round).read reply = .ok status⟩ ::
    pollStages id (round + 1) count

theorem stages_pollSteps (id : String) (round count : Nat) :
    stages (pollSteps id round count) = pollStages id round count := by
  induction count generalizing round with
  | zero => rfl
  | succ count ih => simp only [pollSteps, stages, pollStages, ih]

/-- Both accounts, by what is found of them. -/
def accountStages (sender receiver : Address) (senderFound receiverFound : AccountInformation) :
    List Stage :=
  [⟨.account sender, fun reply => (Errand.account sender).read reply = .ok senderFound⟩,
    ⟨.account receiver, fun reply => (Errand.account receiver).read reply = .ok receiverFound⟩]

namespace Course

variable (course : Course) (request : Transfer.Request)

/-- The stages behind the submission. -/
def settlingStages : List Stage :=
  ⟨.status, fun reply => Errand.status.read reply = .ok course.status⟩ ::
    (pollStages course.id (roundBehind course.status.lastRound) course.rounds ++
      (⟨.pending course.id, fun reply => Decides course.id reply (.ok course.confirmation)⟩ ::
        accountStages course.account.address course.receiver course.senderAfter course.receiverAfter))

/-- All that a transfer asks, in order: both accounts, the parameters, the submission, the status, any
number of lookups that leave the matter open with a wait behind each, a lookup that finds the
confirmation, and both accounts again. -/
def stages : List Stage :=
  accountStages course.account.address course.receiver course.senderBefore course.receiverBefore ++
    (⟨.params, fun reply => suggestedBy request.validityRounds reply = .ok course.params⟩ ::
      ⟨.submit (course.signed request), fun reply =>
        (Errand.submit (course.signed request)).read reply = .ok course.id⟩ ::
      course.settlingStages)

theorem stages_settlingSteps (color : Bool) :
    Tools.stages (course.settlingSteps request color) = course.settlingStages := by
  have confirmed : Tools.stages (confirmationSteps course.id request.waitRounds course.status
      course.rounds course.confirmation) =
        ⟨.status, fun reply => Errand.status.read reply = .ok course.status⟩ ::
          (pollStages course.id (roundBehind course.status.lastRound) course.rounds ++
            [⟨.pending course.id, fun reply => Decides course.id reply (.ok course.confirmation)⟩]) := by
    rw [← stages_pollSteps]
    exact congrArg (_ :: ·) (stages_append _ _)
  have split := stages_append (confirmationSteps course.id request.waitRounds course.status course.rounds
    course.confirmation)
  change Tools.stages (_ ++ _) = _
  rw [split, confirmed, List.cons_append, List.append_assoc]
  rfl

theorem stages_steps (client : Client) (color : Bool) :
    Tools.stages (course.steps client request color) = course.stages request := by
  change Tools.stages (course.payingSteps request color ++ course.settlingSteps request color) = _
  rw [stages_append, stages_settlingSteps]
  rfl

/-! ## Methods -/

theorem method_of_mem_pollStages {id : String} {round count : Nat} {stage : Stage}
    (member : stage ∈ pollStages id round count) : stage.errand.method = .get := by
  induction count generalizing round with
  | zero => cases member
  | succ count ih =>
    rcases List.mem_cons.mp member with rfl | member
    · rfl
    · rcases List.mem_cons.mp member with rfl | member
      · rfl
      · exact ih member

/-- Nothing is submitted behind the submission. -/
theorem method_of_mem_settlingStages {stage : Stage} (member : stage ∈ course.settlingStages) :
    stage.errand.method = .get := by
  rcases List.mem_cons.mp member with rfl | member
  · rfl
  rcases List.mem_append.mp member with polled | member
  · exact method_of_mem_pollStages polled
  simp only [accountStages, List.mem_cons, List.not_mem_nil, or_false] at member
  rcases member with rfl | rfl | rfl <;> rfl

end Course

theorem Heeds.exists_stage {path : List Stage} {visits : List Visit} (heeds : Heeds path visits)
    {visit : Visit} (member : visit ∈ visits) : ∃ stage ∈ path, visit.1 = stage.errand := by
  have found := heeds.errands_prefix.subset (List.mem_map_of_mem member)
  obtain ⟨stage, listed, same⟩ := List.mem_map.mp found
  exact ⟨stage, listed, same.symm⟩

/-- What is visited for another errand than the first comes behind a first reply that lets go on. -/
theorem Heeds.behind {stage : Stage} {path : List Stage} {visits : List Visit}
    (heeds : Heeds (stage :: path) visits) {visit : Visit} (member : visit ∈ visits)
    (other : visit.1 ≠ stage.errand) : ∃ reply later,
      visits = (stage.errand, reply) :: later ∧ stage.passes reply ∧ Heeds path later ∧ visit ∈ later := by
  cases heeds with
  | none => cases member
  | last =>
    obtain rfl := List.mem_singleton.mp member
    exact absurd rfl other
  | passed passed rest =>
    rcases List.mem_cons.mp member with rfl | member
    · exact absurd rfl other
    · exact ⟨_, _, rfl, passed, rest, member⟩

/-- What is visited for no errand but the first comes first. -/
theorem Heeds.head {stage : Stage} {path : List Stage} {visits : List Visit}
    (heeds : Heeds (stage :: path) visits) {visit : Visit} (member : visit ∈ visits)
    (only : ∀ other ∈ path, visit.1 ≠ other.errand) : ∃ reply later,
      visits = (stage.errand, reply) :: later ∧ visit = (stage.errand, reply) := by
  cases heeds with
  | none => cases member
  | last => exact ⟨_, [], rfl, List.mem_singleton.mp member⟩
  | passed _ rest =>
    rcases List.mem_cons.mp member with same | member
    · exact ⟨_, _, rfl, same⟩
    · obtain ⟨other, listed, same⟩ := rest.exists_stage member
      exact absurd same (only other listed)

/-- A submission is the fourth visit, and the three visits in front of it brought what they were for. -/
theorem Heeds.submission {course : Course} {request : Transfer.Request} {visits : List Visit}
    (heeds : Heeds (course.stages request) visits) {visit : Visit} (member : visit ∈ visits)
    (post : visit.1.method = .post) : ∃ first second third reply later,
      visits = (.account course.account.address, first) :: (.account course.receiver, second) ::
        (.params, third) :: (.submit (course.signed request), reply) :: later ∧
      visit = (.submit (course.signed request), reply) ∧
      (Errand.account course.account.address).read first = .ok course.senderBefore ∧
      (Errand.account course.receiver).read second = .ok course.receiverBefore ∧
      suggestedBy request.validityRounds third = .ok course.params := by
  -- Only one of the stages is asked by the method of the visit, so that the visit is for none of the others.
  have other {errand : Errand} (got : errand.method = .get) : visit.1 ≠ errand := by
    intro same
    rw [same, got] at post
    cases post
  obtain ⟨first, _, rfl, found, heeds, member⟩ := heeds.behind member (other rfl)
  obtain ⟨second, _, rfl, also, heeds, member⟩ := heeds.behind member (other rfl)
  obtain ⟨third, _, rfl, suggested, heeds, member⟩ := heeds.behind member (other rfl)
  obtain ⟨reply, later, rfl, same⟩ := heeds.head member fun stage listed =>
    other (course.method_of_mem_settlingStages listed)
  exact ⟨first, second, third, reply, later, rfl, same, found, also, suggested⟩

/-- One of the stages submits. -/
theorem Course.countP_post_stages (course : Course) (request : Transfer.Request) :
    (course.stages request).countP (·.errand.method = .post) = 1 := by
  have none : course.settlingStages.countP (·.errand.method = .post) = 0 :=
    List.countP_eq_zero.mpr fun stage listed => by
      rw [course.method_of_mem_settlingStages listed]
      decide
  unfold stages accountStages
  simp only [List.cons_append, List.nil_append, List.countP_cons, none]
  rfl

theorem countP_post_of_heeds {course : Course} {request : Transfer.Request} {visits : List Visit}
    (heeds : Heeds (course.stages request) visits) : visits.countP (·.1.method = .post) ≤ 1 := by
  have fewer := heeds.errands_prefix.sublist.countP_le (p := fun errand => errand.method = .post)
  rw [List.countP_map, List.countP_map] at fewer
  exact Nat.le_trans fewer (Nat.le_of_eq (course.countP_post_stages request))

theorem countP_post_of_sends {client : Client} {visits : List Visit} {log : List Exchange}
    (sent : client.Sends visits log) :
    log.countP (·.request.method = .post) = visits.countP (·.1.method = .post) := by
  induction sent with
  | nil => rfl
  | cons first _ ih =>
    rw [List.countP_cons, List.countP_cons, ih, (Client.eq_of_requestOf? first.1).1]

/-- The stages of a transfer that is run. -/
theorem exists_course {client : Client} {request : Transfer.Request} {color : Bool}
    {limit? : Option Nat} {log : List Exchange} {outcome : Except Error TransferReport} {written : Bytes}
    (run : Conversation ((transfer client request color).start limit?) log (outcome, written)) :
    ∃ (course : Course) (visits : List Visit), client.Sends visits log ∧
      Heeds (course.stages request) visits ∧
      (visits ≠ [] → Account.ofMnemonic request.senderMnemonic = .ok course.account ∧
        Address.parse request.receiver = .ok course.receiver) ∧
      ∀ report, outcome = .ok report →
        Completes (course.stages request) visits ∧ report = course.report request := by
  obtain ⟨course, visits, after, whole, sent, rfl, walk, reports⟩ := exists_walk run
  have heeds := walk.heeds
  rw [course.stages_steps] at heeds
  refine ⟨course, visits, sent, heeds, fun asked => ?_, fun report success => ?_⟩
  · obtain ⟨account, walk⟩ := walk.held asked
    exact ⟨account, (walk.held asked).1⟩
  · obtain ⟨rfl, same⟩ := (reports report).mp success
    rw [← course.stages_steps request client color]
    exact ⟨walk.completes, same⟩

/-- A transfer asks its stages in order, each only where every reply before it lets it go on, and submits
at most once. It asks nothing where the mnemonic or the receiver is not understood, and everything where
it succeeds. -/
theorem transfer_in_order {client : Client} {request : Transfer.Request} {color : Bool}
    {limit? : Option Nat} {log : List Exchange} {outcome : Except Error TransferReport} {written : Bytes}
    (run : Conversation ((transfer client request color).start limit?) log (outcome, written)) :
    ∃ (course : Course) (visits : List Visit), client.Sends visits log ∧
      Heeds (course.stages request) visits ∧
      (visits ≠ [] → Account.ofMnemonic request.senderMnemonic = .ok course.account ∧
        Address.parse request.receiver = .ok course.receiver) ∧
      (∀ report, outcome = .ok report → Completes (course.stages request) visits) ∧
      log.countP (·.request.method = .post) ≤ 1 := by
  obtain ⟨course, visits, sent, heeds, parties, reports⟩ := exists_course run
  refine ⟨course, visits, sent, heeds, parties, fun report success => (reports report success).1, ?_⟩
  rw [countP_post_of_sends sent]
  exact countP_post_of_heeds heeds

/-! ## What is submitted -/

/-- A signed payment is the one that a request asks for, from the account of a seed and under the
parameters of a node. -/
structure Requested (request : Transfer.Request) (seed : FixedBytes 32) (params : TransactionParams)
    (posted : SignedTransaction) : Prop where
  sender : posted.transaction.sender = ⟨Curve.Ed25519.publicKey seed⟩
  receiver : Address.parse request.receiver = .ok posted.transaction.receiver
  amount : posted.transaction.amount = request.amount
  firstValid : posted.transaction.firstValid = params.lastRound
  lastValid : posted.transaction.lastValid.toNat =
    min (params.lastRound.toNat + request.validityRounds.toNat) (2 ^ 64 - 1)
  window : posted.transaction.firstValid ≤ posted.transaction.lastValid
  genesisId : posted.transaction.genesisId = params.genesisId
  genesisHash : params.genesisHash = Base64.encode posted.transaction.genesisHash.toList
  note : posted.transaction.note = []
  fee : posted.transaction.fee = (Transaction.payment posted.transaction.sender
    posted.transaction.receiver request.amount
    { fee := params.fee
      minFee := params.minFee
      firstValid := params.lastRound
      lastValid := addCapped params.lastRound request.validityRounds
      genesisId := params.genesisId
      genesisHash := posted.transaction.genesisHash
      flatFee := false }).fee
  signature : posted.signature =
    Curve.Ed25519.sign seed ([0x54, 0x58] ++ posted.transaction.encode)

theorem suggestedBy_eq_ok_iff {validityRounds : UInt64} {reply : Reply} {suggested : SuggestedParams} :
    suggestedBy validityRounds reply = .ok suggested ↔
      ∃ params, Errand.params.read reply = .ok params ∧ params.toSuggested validityRounds = .ok suggested :=
  bind_eq_ok_iff

/-- The payment of a course is the one asked for. -/
theorem Course.requested {course : Course} {request : Transfer.Request} {params : TransactionParams}
    (receiver : Address.parse request.receiver = .ok course.receiver)
    (suggested : params.toSuggested request.validityRounds = .ok course.params) :
    Requested request course.account.seed params (course.signed request) := by
  obtain ⟨written, same⟩ := TransactionParams.toSuggested_eq_ok_iff.mp suggested
  have paid := payment_eq course.account.address course.receiver request.amount course.params
  have genesisHash : (course.transaction request).genesisHash = course.params.genesisHash :=
    congrArg (·.genesisHash) paid
  have firstValid : (course.transaction request).firstValid = params.lastRound :=
    (congrArg (·.firstValid) paid).trans (congrArg (·.firstValid) same)
  have lastValid : (course.transaction request).lastValid.toNat =
      min (params.lastRound.toNat + request.validityRounds.toNat) (2 ^ 64 - 1) := by
    have capped : (course.transaction request).lastValid =
        addCapped params.lastRound request.validityRounds :=
      (congrArg (·.lastValid) paid).trans (congrArg (·.lastValid) same)
    rw [capped, addCapped, toNat_cap]
  refine ⟨congrArg (·.sender) paid, ?receiver, congrArg (·.amount) paid, firstValid, lastValid, ?window,
    (congrArg (·.genesisId) paid).trans (congrArg (·.genesisId) same), ?genesisHash,
    congrArg (·.note) paid, ?fee, rfl⟩
  case receiver => exact receiver.trans (congrArg (Except.ok ·.receiver) paid.symm)
  case window =>
    have bound := params.lastRound.toNat_lt
    show (course.transaction request).firstValid.toNat ≤ (course.transaction request).lastValid.toNat
    rw [lastValid, firstValid]
    omega
  case genesisHash =>
    rw [written, ← genesisHash]
    rfl
  case fee =>
    have sender : (course.transaction request).sender = course.account.address := congrArg (·.sender) paid
    have receiver : (course.transaction request).receiver = course.receiver := congrArg (·.receiver) paid
    unfold Course.signed
    dsimp only
    rw [sender, receiver, genesisHash, ← same]
    rfl

/-- An exchange that asks for an account and is told its amount. -/
def TellsAmount (client : Client) (address : Address) (amount : UInt64) (exchange : Exchange) : Prop :=
  client.requestOf? (.account address) = some exchange.request ∧
    ∃ found, (Errand.account address).read exchange.reply = .ok found ∧ found.amount = amount

/-- The fourth exchange submits the signed payment that is asked for, under the parameters that the third
one has told. -/
def Submits (client : Client) (request : Transfer.Request) (log : List Exchange) (exchange : Exchange)
    (posted : SignedTransaction) : Prop :=
  ∃ seed params first second third later,
    log = first :: second :: third :: exchange :: later ∧
    client.requestOf? .params = some third.request ∧ Errand.params.read third.reply = .ok params ∧
    Mnemonic.toKey request.senderMnemonic = .ok seed ∧ Requested request seed params posted ∧
    exchange.request.body = posted.encode ∧
    ((Text.Utf8.encode params.genesisId).length < 2 ^ 32 →
      SignedTransaction.decode exchange.request.body = .ok posted)

theorem submits_of_heeds {client : Client} {request : Transfer.Request} {course : Course}
    {visits : List Visit} {log : List Exchange} (sent : client.Sends visits log)
    (heeds : Heeds (course.stages request) visits)
    (account : Account.ofMnemonic request.senderMnemonic = .ok course.account)
    (receiver : Address.parse request.receiver = .ok course.receiver)
    {exchange : Exchange} (member : exchange ∈ log) (post : exchange.request.method = .post) :
    Submits client request log exchange (course.signed request) := by
  obtain ⟨visit, listed, asked, answered⟩ := sent.exists_visit member
  rw [(Client.eq_of_requestOf? asked).1] at post
  obtain ⟨_, _, third, reply, later, rfl, rfl, _, _, suggested⟩ := heeds.submission listed post
  obtain ⟨params, told, suggested⟩ := suggestedBy_eq_ok_iff.mp suggested
  obtain ⟨_, _, _, behindFirst, rfl⟩ := Client.sends_cons_iff.mp sent
  obtain ⟨_, _, _, behindSecond, rfl⟩ := Client.sends_cons_iff.mp behindFirst
  obtain ⟨query, _, queried, behindThird, rfl⟩ := Client.sends_cons_iff.mp behindSecond
  obtain ⟨submission, _, again, _, rfl⟩ := Client.sends_cons_iff.mp behindThird
  have same : submission = exchange.request := Option.some.inj (again.symm.trans asked)
  obtain ⟨asking, _⟩ := exchange
  dsimp only at same answered
  subst same answered
  have requested := Course.requested receiver suggested
  have written := (Client.eq_of_requestOf? asked).2.2.2
  refine ⟨course.account.seed, params, _, _, ⟨query, third⟩, _, rfl, queried, told,
    Account.ofMnemonic_eq_ok_iff.mp account, requested, written, fun short => ?_⟩
  have fits : (course.signed request).transaction.Fits :=
    ⟨by rwa [requested.genesisId], by rw [requested.note]; decide⟩
  rw [written]
  exact SignedTransaction.decode_eq_ok_iff.mpr (SignedTransaction.encode_form fits)

theorem tellsAmount_of_completes {client : Client} {sender receiver : Address}
    {senderFound receiverFound : AccountInformation} {visits : List Visit} {log : List Exchange}
    (completes : Completes (accountStages sender receiver senderFound receiverFound) visits)
    (sent : client.Sends visits log) : ∃ first second, log = [first, second] ∧
      TellsAmount client sender senderFound.amount first ∧
      TellsAmount client receiver receiverFound.amount second := by
  obtain ⟨first, later, _, asked, found, rest, behind, rfl⟩ := completes.first sent
  obtain ⟨second, _, _, asked', found', none, nothing, rfl⟩ := rest.first behind
  cases none
  cases Client.sends_nil_iff.mp nothing
  exact ⟨first, second, rfl, ⟨asked, senderFound, found, rfl⟩, asked', receiverFound, found', rfl⟩

/-- The stages between the balances before and those after. -/
def Course.middleStages (course : Course) (request : Transfer.Request) : List Stage :=
  ⟨.params, fun reply => suggestedBy request.validityRounds reply = .ok course.params⟩ ::
    ⟨.submit (course.signed request), fun reply =>
      (Errand.submit (course.signed request)).read reply = .ok course.id⟩ ::
    ⟨.status, fun reply => Errand.status.read reply = .ok course.status⟩ ::
    (pollStages course.id (roundBehind course.status.lastRound) course.rounds ++
      [⟨.pending course.id, fun reply => Decides course.id reply (.ok course.confirmation)⟩])

theorem Course.stages_eq (course : Course) (request : Transfer.Request) : course.stages request =
    accountStages course.account.address course.receiver course.senderBefore course.receiverBefore ++
      (course.middleStages request ++
        accountStages course.account.address course.receiver course.senderAfter course.receiverAfter) := by
  simp [stages, settlingStages, middleStages]

/-- What a transfer submits is the signed payment that it is asked for, and can be read back; what it
reports are the parties and the fee of that payment and the amounts that the node has told first and
last. -/
theorem transfer_submits_requested {client : Client} {request : Transfer.Request} {color : Bool}
    {limit? : Option Nat} {log : List Exchange} {outcome : Except Error TransferReport} {written : Bytes}
    (run : Conversation ((transfer client request color).start limit?) log (outcome, written)) :
    (∀ exchange ∈ log, exchange.request.method = .post →
      ∃ posted, Submits client request log exchange posted) ∧
    ∀ report, outcome = .ok report →
      ∃ exchange ∈ log, ∃ posted, exchange.request.method = .post ∧
        Submits client request log exchange posted ∧
        report.fee = posted.transaction.fee ∧ report.sender = posted.transaction.sender ∧
        report.receiver = posted.transaction.receiver ∧
        ∃ first second middle fourth fifth, log = first :: second :: (middle ++ [fourth, fifth]) ∧
          TellsAmount client report.sender report.before.sender first ∧
          TellsAmount client report.receiver report.before.receiver second ∧
          TellsAmount client report.sender report.after.sender fourth ∧
          TellsAmount client report.receiver report.after.receiver fifth := by
  obtain ⟨course, visits, sent, heeds, parties, reports⟩ := exists_course run
  have submits {exchange : Exchange} (member : exchange ∈ log) (post : exchange.request.method = .post) :
      Submits client request log exchange (course.signed request) := by
    have asked : visits ≠ [] := by
      intro none
      subst none
      cases Client.sends_nil_iff.mp sent
      cases member
    obtain ⟨account, receiver⟩ := parties asked
    exact submits_of_heeds sent heeds account receiver member post
  refine ⟨fun exchange member post => ⟨_, submits member post⟩, fun report success => ?_⟩
  obtain ⟨completes, rfl⟩ := reports report success
  -- The exchanges are cut into those of the first balances, those between, and those of the last.
  rw [course.stages_eq] at completes
  obtain ⟨_, _, before, more, rfl⟩ := completes.append
  obtain ⟨_, _, between, after, rfl⟩ := more.append
  obtain ⟨_, _, askedBefore, askedMore, rfl⟩ := Client.sends_append_iff.mp sent
  obtain ⟨_, _, askedBetween, askedAfter, rfl⟩ := Client.sends_append_iff.mp askedMore
  obtain ⟨first, second, rfl, tellsFirst, tellsSecond⟩ := tellsAmount_of_completes before askedBefore
  obtain ⟨fourth, fifth, rfl, tellsFourth, tellsFifth⟩ := tellsAmount_of_completes after askedAfter
  obtain ⟨third, _, _, _, _, rest, askedRest, rfl⟩ := between.first askedBetween
  obtain ⟨exchange, _, rest, asked, _, _, _, rfl⟩ := rest.first askedRest
  have post : exchange.request.method = .post := (Client.eq_of_requestOf? asked).1
  have member : exchange ∈ [first, second] ++ (third :: exchange :: rest ++ [fourth, fifth]) := by simp
  have paid := payment_eq course.account.address course.receiver request.amount course.params
  have sender : course.account.address = (course.transaction request).sender :=
    (congrArg (·.sender) paid).symm
  have receiver : course.receiver = (course.transaction request).receiver :=
    (congrArg (·.receiver) paid).symm
  exact ⟨exchange, member, course.signed request, post, submits member post, rfl, sender, receiver, first,
    second, third :: exchange :: rest, fourth, fifth, rfl, tellsFirst, tellsSecond, tellsFourth, tellsFifth⟩

/-- Where the first reply to a lookup finds the confirmation, there is no further lookup. -/
theorem Walk.confirmed {client : Client} {log : List Exchange} {replies : Nat → Reply} {id : String}
    {round count total : Nat} {confirmation found : Pending} {steps : List Step} {output after : Output}
    {visits : List Visit} {whole : Bool}
    (walk : Walk (pollSteps id round count ++
      [.demand (count < total) (count = total),
        .ask (.pending id) (fun reply => Decides id reply (.ok confirmation))
          fun reply => ∃ error, Decides id reply (.error error)] ++ steps) output visits after whole)
    (sent : client.Sends visits log) (answered : Answered replies log) (positive : 0 < total)
    (decides : Decides id (replies 0) (.ok found)) : ∃ later rest,
      Walk steps output later after whole ∧ client.Sends later rest ∧
        Answered (fun index => replies (index + 1)) rest := by
  cases count with
  | zero =>
    cases walk with
    | unmet none => exact absurd none (Nat.ne_of_lt positive)
    | met _ walk =>
      cases walk with
      | answered _ later =>
        obtain ⟨_, rest, behind, onward⟩ := sent.first_reply answered
        exact ⟨_, rest, later, behind, onward⟩
      | refused stopped =>
        obtain ⟨error, stopped⟩ := stopped
        obtain ⟨rfl, _⟩ := sent.first_reply answered
        cases stopped.unique decides
  | succ count =>
    cases walk with
    | answered undecided _ =>
      obtain ⟨rfl, _⟩ := sent.first_reply answered
      exact absurd undecided decides.not_undecided
    | refused never => cases never

/-- A transfer between known parties succeeds where the output has no limit and the node answers all
that it is asked and finds the confirmation at once. -/
theorem transfer_succeeds {client : Client} {request : Transfer.Request} {color : Bool}
    {log : List Exchange} {outcome : Except Error TransferReport} {written : Bytes}
    (run : Conversation ((transfer client request color).start none) log (outcome, written))
    {replies : Nat → Reply} (answered : Answered replies log) (able : client.CanSend)
    {account : Account} {receiver : Address} {params : SuggestedParams} {id : String} {status : Status}
    {confirmation : Pending} {senderBefore receiverBefore senderAfter receiverAfter : AccountInformation}
    (sends : Account.ofMnemonic request.senderMnemonic = .ok account)
    (receives : Address.parse request.receiver = .ok receiver)
    (first : ∀ address, (Errand.account address).read (replies 0) = .ok senderBefore)
    (second : ∀ address, (Errand.account address).read (replies 1) = .ok receiverBefore)
    (third : suggestedBy request.validityRounds (replies 2) = .ok params)
    (fourth : ∀ signed, (Errand.submit signed).read (replies 3) = .ok id)
    (fifth : Errand.status.read (replies 4) = .ok status)
    (waits : 0 < lookups status.lastRound request.waitRounds)
    (sixth : Decides id (replies 5) (.ok confirmation))
    (seventh : ∀ address, (Errand.account address).read (replies 6) = .ok senderAfter)
    (eighth : ∀ address, (Errand.account address).read (replies 7) = .ok receiverAfter) :
    ∃ report, outcome = .ok report := by
  obtain ⟨taken, visits, after, whole, sent, _, walk, reports⟩ := exists_walk run
  -- The walk is known up to what each reply brings, so that no step of it can be one that fails.
  suffices arrived : whole = true from ⟨_, (reports _).mpr ⟨arrived, rfl⟩⟩
  obtain ⟨_, walk⟩ := walk.decided sends
  obtain ⟨_, walk⟩ := walk.decided receives
  obtain ⟨_, _, _, _, walk, sent, answered⟩ := (walk.pass able).told sent answered (first _)
  obtain ⟨_, _, _, _, walk, sent, answered⟩ := walk.told sent answered (second _)
  obtain ⟨_, _, _, _, walk, sent, answered⟩ := walk.wrote.wrote.told sent answered third
  obtain ⟨named, _, _, _, walk, sent, answered⟩ := walk.told sent answered (fourth _)
  obtain ⟨seen, _, _, _, walk, sent, answered⟩ := walk.wrote.told sent answered fifth
  obtain ⟨_, _, walk, sent, answered⟩ := walk.confirmed sent answered (seen ▸ waits) (named ▸ sixth)
  obtain ⟨_, _, _, _, walk, sent, answered⟩ := walk.wrote.told sent answered (seventh _)
  obtain ⟨_, _, _, _, walk, _, _⟩ := walk.told sent answered (eighth _)
  cases walk.wrote.wrote
  rfl

/-! ## A run that succeeds -/

/-- A payment of the blank account to the blank address. -/
def blankRequest : Transfer.Request :=
  ⟨Mnemonic.ofKey (.zero 32), Address.zero.toText, 1, 10, 1000⟩

def accountReply : Reply := .answer 200 .utf8 (Text.Utf8.encode "[\"\",5]")

def blankParams : TransactionParams := ⟨"", 0, "AAAAAAAAAAAAAAAAAAAAAAAAAAAAAAAAAAAAAAAAAAA=", "", 7, 0⟩

def paramsReply : Reply := .answer 200 .utf8
  (Text.Utf8.encode "[\"\",0,\"AAAAAAAAAAAAAAAAAAAAAAAAAAAAAAAAAAAAAAAAAAA=\",\"\",7]")

def postedReply : Reply := .answer 200 .utf8 (Text.Utf8.encode "[\"id\"]")

/-- A node that confirms at once. -/
def swiftReplies : Nat → Reply
  | 2 => paramsReply
  | 3 => postedReply
  | 4 => statusReply
  | 5 => pendingReply
  | _ => accountReply

theorem ofMnemonic_blankRequest : Account.ofMnemonic blankRequest.senderMnemonic = .ok ⟨.zero 32⟩ :=
  Account.ofMnemonic_mnemonic ⟨.zero 32⟩

theorem parse_blankRequest : Address.parse blankRequest.receiver = .ok .zero :=
  Address.parse_eq_ok_iff.mpr rfl

/-- The replies are records that can be read. -/
theorem interpret_replies :
    Client.interpret AccountInformation.shape.parse accountReply = .ok ⟨"", 5, 0, ""⟩ ∧
    Client.interpret TransactionParams.shape.parse paramsReply = .ok blankParams ∧
    Client.interpret Posted.shape.parse postedReply = .ok ⟨"id"⟩ := by
  simp only [Client.interpret_eq_ok_iff]
  exact ⟨⟨200, _, _, rfl, rfl, by decide +kernel⟩, ⟨200, _, _, rfl, rfl, by decide +kernel⟩,
    ⟨200, _, _, rfl, rfl, by decide +kernel⟩⟩

theorem suggestedBy_paramsReply :
    suggestedBy 1000 paramsReply = .ok ⟨0, 0, 7, 1007, "", .zero 32, false⟩ := by
  have hash : blankParams.genesisHash = Base64.encode (FixedBytes.zero 32).toList := by decide
  have capped : addCapped 7 1000 = 1007 := by decide
  refine suggestedBy_eq_ok_iff.mpr ⟨blankParams, interpret_replies.2.1, ?_⟩
  refine TransactionParams.toSuggested_eq_ok_iff.mpr ⟨hash, ?_⟩
  change _ = SuggestedParams.mk 0 0 7 (addCapped 7 1000) "" (.zero 32) false
  rw [capped]

private theorem read_postedReply (signed : SignedTransaction) :
    (Errand.submit signed).read postedReply = .ok "id" := by
  change Posted.id <$> Client.interpret Posted.shape.parse postedReply = _
  rw [interpret_replies.2.2]
  rfl

private theorem exists_success : ∃ log report written, Answered swiftReplies log ∧
    Conversation ((transfer localClient blankRequest false).start none) log (.ok report, written) := by
  obtain ⟨⟨log, outcome, written⟩, ⟨answered, run⟩, _⟩ := existsUnique_conversation
    ((transfer localClient blankRequest false).start none) swiftReplies
  have told (address : Address) : (Errand.account address).read accountReply = .ok ⟨"", 5, 0, ""⟩ :=
    interpret_replies.1
  obtain ⟨confirmation, found, confirmed⟩ := exists_confirmed_pendingReply "id"
  obtain ⟨report, rfl⟩ := transfer_succeeds run answered localClient_canSend ofMnemonic_blankRequest
    parse_blankRequest told told suggestedBy_paramsReply read_postedReply read_statusReply
    (by decide +kernel) (.confirmed found confirmed) told told
  exact ⟨log, report, written, answered, run⟩

/-- A payment of the blank account asks all of its stages. -/
theorem transfer_in_order_blank : ∃ log report written,
    Conversation ((transfer localClient blankRequest false).start none) log (.ok report, written) ∧
      ∃ course visits, localClient.Sends visits log ∧
        Completes (Course.stages course blankRequest) visits ∧
        log.countP (·.request.method = .post) ≤ 1 := by
  obtain ⟨log, report, written, _, run⟩ := exists_success
  obtain ⟨course, visits, sent, _, _, completes, once⟩ := transfer_in_order run
  exact ⟨log, report, written, run, course, visits, sent, completes report rfl, once⟩

/-- What is submitted for the blank account can be read back, and its fee is the one reported. -/
theorem transfer_submits_requested_blank : ∃ log report written,
    Conversation ((transfer localClient blankRequest false).start none) log (.ok report, written) ∧
      ∃ exchange ∈ log, ∃ posted, exchange.request.method = .post ∧
        SignedTransaction.decode exchange.request.body = .ok posted ∧ posted.transaction.amount = 1 ∧
        report.fee = posted.transaction.fee := by
  obtain ⟨log, report, written, answered, run⟩ := exists_success
  obtain ⟨exchange, member, posted, post, submits, fee, _⟩ := (transfer_submits_requested run).2 report rfl
  obtain ⟨_, params, _, _, third, _, rfl, _, told, _, requested, _, decodes⟩ := submits
  have known : params = blankParams := by
    obtain ⟨_, _, third, _⟩ := answered
    rw [third] at told
    exact Except.ok.inj (told.symm.trans interpret_replies.2.1)
  have short : (Text.Utf8.encode params.genesisId).length < 2 ^ 32 := by
    rw [known]
    decide
  exact ⟨_, _, written, run, exchange, member, posted, post, decodes short, requested.amount, fee⟩

end WalletTools.Tools
