import WalletTools.Proofs.Tools.Itinerary

/-! Transfers. What a transfer asks and writes is an itinerary: both balances, the parameters of the
network, one submission, the waiting for its confirmation, and both balances again. -/
namespace WalletTools.Tools

open Ledger Node

instance : Inhabited Status := ⟨⟨0, "", 0⟩⟩
instance : Inhabited AccountInformation := ⟨⟨"", 0, 0, ""⟩⟩
instance : Inhabited Pending := ⟨⟨.object [], rfl⟩⟩
instance : Inhabited Account := ⟨⟨.zero 32⟩⟩
instance : Inhabited SuggestedParams := ⟨⟨0, 0, 0, 0, "", .zero 32, false⟩⟩

/-! ## Pieces of the itinerary -/

/-- Asking for both accounts. -/
def accountSteps (sender receiver : Address) (senderFound receiverFound : AccountInformation) : List Step :=
  [.reading (.account sender) (Errand.account sender).read senderFound,
    .reading (.account receiver) (Errand.account receiver).read receiverFound]

/-- Showing both balances. -/
def balanceSteps (color : Bool) (balances : Balances) : List Step :=
  [.write (label color "Sender account balance:" ++ s!"   {balances.sender} microAlgos" ++ "\n"),
    .write (label color "Receiver account balance:" ++ s!" {balances.receiver} microAlgos" ++ "\n")]

/-- Lookups that leave the matter open and waits that succeed, from a round on. -/
def pollSteps (id : String) : (round count : Nat) → List Step
  | _, 0 => []
  | round, count + 1 =>
    -- A lookup that ends the command is the last one, so that it is not among these.
    .ask (.pending id) (Undecided id) (fun _ => False) ::
    .ask (.statusAfter round) (fun reply => ∃ status, (Errand.statusAfter round).read reply = .ok status)
      (fun reply => ∃ error, (Errand.statusAfter round).read reply = .error error) ::
    pollSteps id (round + 1) count

/-- Waiting for a confirmation, which the last of so many lookups finds. -/
def confirmationSteps (id : String) (waitRounds : UInt64) (status : Status) (count : Nat)
    (confirmation : Pending) : List Step :=
  .reading .status Errand.status.read status ::
    (pollSteps id (roundBehind status.lastRound) count ++
      [.demand (count < lookups status.lastRound waitRounds) (count = lookups status.lastRound waitRounds),
        .ask (.pending id) (fun reply => Decides id reply (.ok confirmation))
          fun reply => ∃ error, Decides id reply (.error error)])

variable {client : Client}

theorem travels_fetchBalances (able : client.CanSend) (sender receiver : Address) :
    Travels client (fetchBalances client sender receiver) fun steps balances =>
      ∃ senderFound receiverFound, steps = accountSteps sender receiver senderFound receiverFound ∧
        balances = ⟨senderFound.amount, receiverFound.amount⟩ := by
  have account (address : Address) : Travels client (ask (client.account address)) fun steps found =>
      steps = [.reading (.account address) (Errand.account address).read found] :=
    travels_ask (Client.follows_perform able (.account address)) (tells_visit _ _)
  refine ((account sender).bind fun senderFound => (account receiver).bind fun receiverFound =>
    travels_pure _).mono ?_
  intro steps balances routed
  obtain ⟨senderFound, _, _, rfl, ⟨receiverFound, _, _, rfl, ⟨rfl, rfl⟩, rfl⟩, rfl⟩ := routed
  exact ⟨senderFound, receiverFound, rfl, rfl⟩

theorem travels_writeBalances (color : Bool) (balances : Balances) :
    Travels client (writeBalances color balances) fun steps _ => steps = balanceSteps color balances := by
  refine ((travels_writeLine _).bind fun _ => travels_writeLine _).mono ?_
  intro steps _ routed
  obtain ⟨_, _, _, rfl, rfl, rfl⟩ := routed
  rfl

theorem walk_polls {id : String} {round : Nat} {answers : List (Reply × Reply)}
    (allOpen : AllOpen id answers) (output : Output) :
    Walk (pollSteps id round answers.length) output (polls id round answers) output true := by
  induction answers generalizing round with
  | nil => exact .arrived
  | cons answer answers ih =>
    obtain ⟨⟨undecided, passed⟩, later⟩ := List.forall_mem_cons.mp allOpen
    exact .answered undecided (.answered passed (ih later))

theorem pollSteps_append (id : String) (round count more : Nat) :
    pollSteps id round (count + more) = pollSteps id round count ++ pollSteps id (round + count) more := by
  induction count generalizing round with
  | zero => rw [Nat.zero_add, Nat.add_zero]; rfl
  | succ count ih =>
    rw [Nat.add_right_comm, pollSteps, pollSteps, ih, Nat.add_right_comm round 1, Nat.add_assoc round]
    rfl

/-- A walk that fails behind polls that leave the matter open. -/
private theorem walk_polls_failed {id : String} {round count : Nat} {answers : List (Reply × Reply)}
    (allOpen : AllOpen id answers) {more : List Step} {visits : List Visit} {output : Output}
    (fails : Walk (pollSteps id (round + answers.length) count ++ more) output visits output false) :
    Walk (pollSteps id round (answers.length + count) ++ more) output
      (polls id round answers ++ visits) output false := by
  rw [pollSteps_append, List.append_assoc]
  exact (walk_polls allOpen output).append fails

/-- Waiting for a confirmation goes on until a lookup finds one. -/
theorem tells_awaits (id : String) (waitRounds : UInt64) :
    Route.Tells (fun steps confirmation => ∃ status count,
      steps = confirmationSteps id waitRounds status count confirmation) (Awaits id waitRounds) := by
  intro visits outcome awaits
  cases awaits with
  | unanswered failed =>
    exact ⟨_, default, ⟨default, 0, rfl⟩, fun output => .inr ⟨_, rfl, .refused ⟨_, failed⟩⟩⟩
  | @answered reply status visits outcome passed first =>
    cases first with
    | @lookup _ reply answers few allOpen decides =>
      cases outcome with
      | ok confirmation =>
        refine ⟨_, confirmation, ⟨status, answers.length, rfl⟩, fun output => .inl ⟨rfl, ?_⟩⟩
        exact .answered passed ((walk_polls allOpen output).append
          (.met few (.answered decides .arrived)))
      | error error =>
        refine ⟨_, default, ⟨status, answers.length, rfl⟩, fun output => .inr ⟨error, rfl, ?_⟩⟩
        exact .answered passed ((walk_polls allOpen output).append
          (.met few (.refused ⟨error, decides⟩)))
    | @wait reply wait error answers few allOpen undecided failed =>
      -- The wait that fails belongs to one more pair of steps than there are whole pairs of answers.
      refine ⟨_, default, ⟨status, answers.length + 1, rfl⟩, fun output => .inr ⟨error, rfl, ?_⟩⟩
      exact .answered passed (walk_polls_failed allOpen (.answered undecided (.refused ⟨error, failed⟩)))
    | timeout answers all allOpen =>
      refine ⟨_, default, ⟨status, answers.length, rfl⟩, fun output => .inr ⟨_, rfl, ?_⟩⟩
      rw [← List.append_nil (polls id (roundBehind status.lastRound) answers)]
      exact .answered passed ((walk_polls allOpen output).append (.unmet all))

/-- The parameters that a reply suggests for a transfer. -/
def suggestedBy (validityRounds : UInt64) (reply : Reply) : Except Node.Error SuggestedParams :=
  Errand.params.read reply >>= fun params => params.toSuggested validityRounds

theorem follows_suggested (able : client.CanSend) (validityRounds : UInt64) :
    client.Follows (do liftM ((← client.transactionParams).toSuggested validityRounds) :
      Call SuggestedParams).run fun visits outcome =>
        ∃ reply, visits = [(.params, reply)] ∧ outcome = suggestedBy validityRounds reply := by
  have asked := (Client.follows_perform able .params).run_bind fun params =>
    Client.follows_done (params.toSuggested validityRounds)
  rw [Client.transactionParams_eq_perform]
  refine asked.congr fun visits outcome => ?_
  constructor
  · intro given
    obtain ⟨found, _, _, ⟨reply, rfl, same⟩, told, rfl⟩ := given
    cases found with
    | ok params =>
      obtain ⟨rfl, rfl⟩ := told
      exact ⟨reply, rfl, by rw [suggestedBy, ← same]; rfl⟩
    | error error =>
      obtain ⟨rfl, rfl⟩ := told
      exact ⟨reply, rfl, by rw [suggestedBy, ← same]; rfl⟩
  · intro given
    obtain ⟨reply, rfl, rfl⟩ := given
    refine ⟨_, [(.params, reply)], [], ⟨reply, rfl, rfl⟩, ?_, rfl⟩
    unfold suggestedBy
    cases Errand.params.read reply <;> exact ⟨rfl, rfl⟩

/-! ## The whole itinerary -/

/-- What a transfer comes upon. -/
structure Course where
  account : Account
  receiver : Address
  senderBefore : AccountInformation
  receiverBefore : AccountInformation
  params : SuggestedParams
  id : String
  status : Status
  rounds : Nat
  confirmation : Pending
  senderAfter : AccountInformation
  receiverAfter : AccountInformation
deriving Inhabited

namespace Course

variable (course : Course) (request : Transfer.Request)

def before : Balances := ⟨course.senderBefore.amount, course.receiverBefore.amount⟩

def after : Balances := ⟨course.senderAfter.amount, course.receiverAfter.amount⟩

/-- The payment that is asked for. -/
def transaction : Transaction :=
  .payment course.account.address course.receiver request.amount course.params

def signed : SignedTransaction :=
  ⟨course.transaction request,
    Curve.Ed25519.sign course.account.seed (course.transaction request).bytesToSign⟩

def report : TransferReport where
  sender := course.account.address
  receiver := course.receiver
  before := course.before
  after := course.after
  fee := (course.transaction request).fee
  id := course.id
  confirmation := course.confirmation

/-- The steps up to the submission. -/
def payingSteps (color : Bool) : List Step :=
  accountSteps course.account.address course.receiver course.senderBefore course.receiverBefore ++
    balanceSteps color course.before ++
    [.reading .params (suggestedBy request.validityRounds) course.params,
      .reading (.submit (course.signed request)) (Errand.submit (course.signed request)).read course.id]

/-- The steps behind the submission. -/
def settlingSteps (color : Bool) : List Step :=
  .write (label color "Transaction ID:" ++ " " ++ course.id ++ "\n") ::
    (confirmationSteps course.id request.waitRounds course.status course.rounds course.confirmation ++
      (.write (label color "Transaction information:" ++ " " ++ course.confirmation.text ++ "\n") ::
        (accountSteps course.account.address course.receiver course.senderAfter course.receiverAfter ++
          balanceSteps color course.after)))

end Course

/-- The fee is all of a payment that is worked out. -/
theorem payment_eq (sender receiver : Address) (amount : UInt64) (params : SuggestedParams) :
    Transaction.payment sender receiver amount params =
      { sender, receiver, amount
        fee := (Transaction.payment sender receiver amount params).fee
        firstValid := params.firstValid
        lastValid := params.lastValid
        genesisId := params.genesisId
        genesisHash := params.genesisHash
        note := [] } := by
  unfold Transaction.payment Transaction.assignFee
  dsimp only
  split <;> rfl

theorem sign_payment (account : Account) (receiver : Address) (amount : UInt64)
    (params : SuggestedParams) :
    account.sign (.payment account.address receiver amount params) =
      .ok ⟨.payment account.address receiver amount params, Curve.Ed25519.sign account.seed
        (Transaction.payment account.address receiver amount params).bytesToSign⟩ := by
  have own : ¬ (Transaction.payment account.address receiver amount params).sender ≠ account.address :=
    fun foreign => foreign (congrArg (·.sender) (payment_eq _ _ _ _))
  rw [Account.sign, if_neg own]

/-- A transfer behind its submission. -/
def settle (client : Client) (request : Transfer.Request) (color : Bool) (account : Account)
    (receiver : Address) (before : Balances) (fee : UInt64) (id : String) :
    Command Dialogue TransferReport := do
  writeLine (label color "Transaction ID:" ++ " " ++ id)
  let confirmation ← ask (client.awaitConfirmation id request.waitRounds)
  writeLine (label color "Transaction information:" ++ " " ++ confirmation.text)
  let after ← fetchBalances client account.address receiver
  writeBalances color after
  return { sender := account.address, receiver, before, after, fee, id, confirmation }

/-- A transfer whose parties are known. -/
def pay (client : Client) (request : Transfer.Request) (color : Bool) (account : Account)
    (receiver : Address) : Command Dialogue TransferReport := do
  let before ← fetchBalances client account.address receiver
  writeBalances color before
  let params ← ask do liftM ((← client.transactionParams).toSuggested request.validityRounds)
  let transaction := Transaction.payment account.address receiver request.amount params
  let signed ← check (account.sign transaction)
  let id ← ask (client.sendTransaction signed)
  settle client request color account receiver before transaction.fee id

theorem transfer_eq (client : Client) (request : Transfer.Request) (color : Bool) :
    transfer client request color = (do
      let account ← check (Account.ofMnemonic request.senderMnemonic)
      let receiver ← check (Address.parse request.receiver)
      pay client request color account receiver) := rfl

/-- The route behind the submission. -/
theorem travels_settle (able : client.CanSend) (request : Transfer.Request) (color : Bool)
    (account : Account) (receiver : Address) (before : Balances) (fee : UInt64) (id : String) :
    Travels client (settle client request color account receiver before fee id) fun steps report =>
      ∃ course : Course, course.account = account ∧ course.receiver = receiver ∧ course.id = id ∧
        steps = course.settlingSteps request color ∧
        report = { course.report request with before, fee } := by
  have awaits := travels_ask (Client.follows_awaitConfirmation able) (tells_awaits id request.waitRounds)
  refine ((travels_writeLine _).bind fun _ => awaits.bind fun confirmation =>
    (travels_writeLine _).bind fun _ => (travels_fetchBalances able _ _).bind fun after =>
      (travels_writeBalances color after).bind fun _ => travels_pure _).mono ?_
  intro steps report routed
  obtain ⟨_, _, _, rfl, ⟨confirmation, _, _, ⟨status, rounds, rfl⟩, ⟨_, _, _, rfl, ⟨_, _, _,
    ⟨senderAfter, receiverAfter, rfl, rfl⟩, ⟨_, _, _, rfl, ⟨rfl, rfl⟩, rfl⟩, rfl⟩, rfl⟩, rfl⟩, rfl⟩ := routed
  exact ⟨{ (default : Course) with
    account, receiver, id, status, rounds, confirmation, senderAfter, receiverAfter },
    rfl, rfl, rfl, rfl, rfl⟩

/-- The route behind the checks of the parties. -/
theorem travels_pay (able : client.CanSend) (request : Transfer.Request) (color : Bool)
    (account : Account) (receiver : Address) :
    Travels client (pay client request color account receiver) fun steps report =>
      ∃ course : Course, course.account = account ∧ course.receiver = receiver ∧
        steps = course.payingSteps request color ++ course.settlingSteps request color ∧
        report = course.report request := by
  have suggested := travels_ask (follows_suggested able request.validityRounds)
    (tells_visit .params (suggestedBy request.validityRounds))
  have submitted (signed : SignedTransaction) : Travels client (ask (client.sendTransaction signed))
      fun steps id => steps = [.reading (.submit signed) (Errand.submit signed).read id] := by
    rw [Client.sendTransaction_eq_perform]
    exact travels_ask (Client.follows_perform able (.submit signed)) (tells_visit _ _)
  have signs (params : SuggestedParams) (next : SignedTransaction → Command Dialogue TransferReport) :
      check (account.sign (.payment account.address receiver request.amount params)) >>= next =
        next ⟨.payment account.address receiver request.amount params,
          Curve.Ed25519.sign account.seed (Transaction.payment account.address receiver request.amount
            params).bytesToSign⟩ := by
    rw [sign_payment]
    rfl
  unfold pay
  simp only [signs]
  refine ((travels_fetchBalances able account.address receiver).bind fun before =>
    (travels_writeBalances color before).bind fun _ => suggested.bind fun params =>
      (submitted _).bind fun id => travels_settle able request color account receiver before _ id).mono ?_
  intro steps report routed
  obtain ⟨_, _, _, ⟨senderBefore, receiverBefore, rfl, rfl⟩, ⟨_, _, _, rfl, ⟨params, _, _, rfl, ⟨id, _, _,
    rfl, ⟨course, rfl, rfl, rfl, rfl, rfl⟩, rfl⟩, rfl⟩, rfl⟩, rfl⟩ := routed
  refine ⟨{ course with senderBefore, receiverBefore, params }, rfl, rfl, ?_, rfl⟩
  unfold Course.payingSteps
  rw [List.append_assoc, List.append_assoc]
  rfl

/-- The itinerary of a transfer: first the parties have to be known and the client has to be able to
send. -/
def Course.steps (course : Course) (client : Client) (request : Transfer.Request) (color : Bool) :
    List Step :=
  .deciding (Account.ofMnemonic request.senderMnemonic) course.account ::
    .deciding (Address.parse request.receiver) course.receiver ::
      .demand client.CanSend (¬ client.CanSend) ::
        (course.payingSteps request color ++ course.settlingSteps request color)

private theorem runs_fetchBalances_of_unable (unable : ¬ client.CanSend) {sender receiver : Address}
    {output after : Output} {log : List Exchange} {outcome : Except Error Balances}
    (run : Runs (fetchBalances client sender receiver) output log outcome after) :
    log = [] ∧ after = output ∧ outcome = .error (.node .transport) := by
  have lost {log : List Exchange} {found : Except Error AccountInformation} {after : Output}
      (begun : Runs (ask (client.account sender)) output log found after) :
      log = [] ∧ after = output ∧ found = .error (.node .transport) := by
    obtain ⟨_, asked, rfl, rfl⟩ := runs_ask_iff.mp begun
    rw [Client.account_eq_perform, Client.run_perform_of_unable unable] at asked
    obtain ⟨rfl, rfl⟩ := conversation_done_iff.mp asked
    exact ⟨rfl, rfl, rfl⟩
  rcases runs_bind_iff.mp run with ⟨error, begun, rfl⟩ | ⟨_, _, _, _, begun, _, _⟩
  · obtain ⟨rfl, rfl, same⟩ := lost begun
    cases same
    exact ⟨rfl, rfl, rfl⟩
  · cases (lost begun).2.2

/-- A client that cannot send fails before anything is asked or written. -/
theorem runs_pay_of_unable (unable : ¬ client.CanSend) {request : Transfer.Request} {color : Bool}
    {account : Account} {receiver : Address} {output after : Output} {log : List Exchange}
    {outcome : Except Error TransferReport}
    (run : Runs (pay client request color account receiver) output log outcome after) :
    log = [] ∧ after = output ∧ outcome = .error (.node .transport) := by
  rcases runs_bind_iff.mp run with ⟨error, begun, rfl⟩ | ⟨_, _, _, _, begun, _, _⟩
  · obtain ⟨rfl, rfl, same⟩ := runs_fetchBalances_of_unable unable begun
    cases same
    exact ⟨rfl, rfl, rfl⟩
  · cases (runs_fetchBalances_of_unable unable begun).2.2

/-- The route of a transfer. -/
theorem travels_transfer (client : Client) (request : Transfer.Request) (color : Bool) :
    Travels client (transfer client request color) fun steps report => ∃ course : Course,
      steps = course.steps client request color ∧ report = course.report request := by
  have paid (account : Account) (receiver : Address) :
      Travels client (pay client request color account receiver) fun steps report =>
        ∃ course : Course, course.account = account ∧ course.receiver = receiver ∧
          steps = .demand client.CanSend (¬ client.CanSend) ::
            (course.payingSteps request color ++ course.settlingSteps request color) ∧
          report = course.report request := by
    by_cases able : client.CanSend
    · intro output log outcome after run
      obtain ⟨_, _, visits, ⟨course, rfl, rfl, rfl, rfl⟩, sent, ends⟩ :=
        travels_pay able request color account receiver output log outcome after run
      refine ⟨_, _, visits, ⟨course, rfl, rfl, rfl, rfl⟩, sent, ?_⟩
      rcases ends with ⟨success, walk⟩ | ⟨error, failure, walk⟩
      · exact .inl ⟨success, .met able walk⟩
      · exact .inr ⟨error, failure, .met able walk⟩
    · intro output log outcome after run
      obtain ⟨rfl, rfl, rfl⟩ := runs_pay_of_unable able run
      exact ⟨_, _, [], ⟨{ (default : Course) with account, receiver }, rfl, rfl, rfl, rfl⟩,
        Client.sends_nil_iff.mpr rfl, .inr ⟨_, rfl, .unmet able⟩⟩
  rw [transfer_eq]
  refine ((travels_check _).bind fun account => (travels_check _).bind fun receiver =>
    paid account receiver).mono ?_
  intro steps report routed
  obtain ⟨_, _, _, rfl, ⟨_, _, _, rfl, ⟨course, rfl, rfl, rfl, rfl⟩, rfl⟩, rfl⟩ := routed
  exact ⟨course, rfl, rfl⟩

/-- A transfer walks along its itinerary: it reports where no step fails. -/
theorem exists_walk {request : Transfer.Request} {color : Bool} {limit? : Option Nat}
    {log : List Exchange} {outcome : Except Error TransferReport} {written : Bytes}
    (run : Conversation ((transfer client request color).start limit?) log (outcome, written)) :
    ∃ (course : Course) (visits : List Visit) (after : Output) (whole : Bool),
      client.Sends visits log ∧ written = after.written ∧
      Walk (course.steps client request color) (.empty limit?) visits after whole ∧
      ∀ report, outcome = .ok report ↔ whole = true ∧ report = course.report request := by
  obtain ⟨after, runs, rfl⟩ := conversation_start_iff.mp run
  obtain ⟨_, _, visits, ⟨course, rfl, rfl⟩, sent, ends⟩ :=
    travels_transfer client request color _ _ _ _ runs
  rcases ends with ⟨rfl, walk⟩ | ⟨error, rfl, walk⟩
  · exact ⟨course, visits, after, true, sent, rfl, walk, fun report =>
      ⟨fun same => ⟨rfl, (Except.ok.inj same).symm⟩, fun given => congrArg Except.ok given.2.symm⟩⟩
  · exact ⟨course, visits, after, false, sent, rfl, walk, fun report => ⟨nofun, nofun⟩⟩

end WalletTools.Tools
