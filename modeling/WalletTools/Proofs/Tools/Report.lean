import WalletTools.Proofs.Tools.Milestones

/-! Reports. What a transfer has written, whatever becomes of it, is as much of the whole report as the
replies have earned: the balances once both are told, the identifier once the node has accepted the
submission, the record once it is confirmed, and the balances again once both are told again. -/
namespace WalletTools.Tools

open Ledger Node

variable {client : Client} {output after : Output} {log : List Exchange} {replies : Nat → Reply}

/-! ## The report -/

/-- The lines that tell balances. -/
def balanceLines (balances : Balances) : List String :=
  [s!"Sender account balance:   {balances.sender} microAlgos\n",
    s!"Receiver account balance: {balances.receiver} microAlgos\n"]

instance : Inhabited Balances := ⟨⟨0, 0⟩⟩

/-- What there is to show of a transfer. -/
structure Shown where
  before : Balances
  id : String
  confirmation : Pending
  after : Balances
deriving Inhabited

/-- The lines of a whole report. -/
def Shown.lines (shown : Shown) : List String :=
  balanceLines shown.before ++
    (s!"Transaction ID: {shown.id}\n" ::
      s!"Transaction information: {shown.confirmation.text}\n" :: balanceLines shown.after)

/-- So many lines of a report are written, and both balances of a pair or neither. -/
def Shown.Written (shown : Shown) (count : Nat) (written : Bytes) : Prop :=
  count ∈ [0, 2, 3, 4, 6] ∧ written = (shown.lines.take count).flatMap Text.Utf8.encode

/-- A milestone is passed if it is reached, and then with one value. -/
def Marks (passed : α → Prop) (reached : Prop) (value : α) : Prop :=
  ∀ other, passed other ↔ reached ∧ other = value

theorem marks_of_passed {passed : α → Prop} {reached : Prop} {value : α} (holds : passed value)
    (only : ∀ other, passed other → other = value) (reaches : reached) : Marks passed reached value := by
  intro other
  constructor
  · intro also
    exact ⟨reaches, only other also⟩
  · intro given
    rw [given.2]
    exact holds

theorem marks_of_missed {passed : α → Prop} {reached : Prop} {value : α} (missed : ∀ other, ¬ passed other)
    (unreached : ¬ reached) : Marks passed reached value :=
  fun other => ⟨fun holds => absurd holds (missed other), fun given => absurd given.1 unreached⟩

/-- So many lines of a report are what the replies have earned. -/
structure Earned (client : Client) (request : Transfer.Request) (replies : Nat → Reply)
    (outcome : Except Error TransferReport) (shown : Shown) (count : Nat) : Prop where
  /-- The first balances are shown if they are told. -/
  before : Marks (BalancesTold client request replies) (2 ≤ count) shown.before
  /-- The identifier is shown if the node has accepted the submission and given it that identifier. -/
  submitted : Marks (SubmissionAccepted client request replies) (3 ≤ count) shown.id
  /-- The record is shown if waiting for the confirmation has brought it. -/
  confirmed : Marks (fun confirmation => ∃ size, ConfirmedAt client request replies confirmation size)
    (4 ≤ count) shown.confirmation
  /-- A record that is shown is one of a confirmed transaction. -/
  sure : 4 ≤ count → ∃ round, shown.confirmation.ConfirmedIn round
  /-- The last balances are shown if they are told behind the confirmation. -/
  after : Marks (BalancesToldAgain client request replies) (count = 6) shown.after
  /-- A transfer is reported if all lines are shown. -/
  reported : (∃ report, outcome = .ok report) ↔ count = 6

section

variable {request : Transfer.Request} {shown : Shown} {error : Error} {size : Nat}

theorem not_confirmedAt_of_not_accepted (refused : ∀ id, ¬ SubmissionAccepted client request replies id)
    (confirmation : Pending) : ¬ ∃ size, ConfirmedAt client request replies confirmation size :=
  fun ⟨_, id, _, accepted, _⟩ => refused id accepted

theorem not_toldAgain_of_not_confirmedAt
    (unconfirmed : ∀ confirmation, ¬ ∃ size, ConfirmedAt client request replies confirmation size)
    (balances : Balances) : ¬ BalancesToldAgain client request replies balances :=
  fun ⟨confirmation, size, confirmed, _⟩ => unconfirmed confirmation ⟨size, confirmed⟩

theorem marks_before (told : BalancesTold client request replies shown.before) {reached : Prop}
    (reaches : reached) : Marks (BalancesTold client request replies) reached shown.before :=
  marks_of_passed told (fun _ also => told.2.2.2.unique also.2.2.2) reaches

theorem marks_submitted (accepted : SubmissionAccepted client request replies shown.id) {reached : Prop}
    (reaches : reached) : Marks (SubmissionAccepted client request replies) reached shown.id :=
  marks_of_passed accepted (fun _ also => accepted.2.2.unique also.2.2) reaches

theorem marks_confirmed (confirmed : ConfirmedAt client request replies shown.confirmation size)
    {reached : Prop} (reaches : reached) :
    Marks (fun confirmation => ∃ size, ConfirmedAt client request replies confirmation size) reached
      shown.confirmation :=
  marks_of_passed ⟨size, confirmed⟩ (fun _ also => (confirmed.unique also.choose_spec).1) reaches

theorem earned_nothing (shown : Shown) (untold : ∀ balances, ¬ BalancesTold client request replies balances) :
    Earned client request replies (.error error) shown 0 := by
  have refused (id : String) : ¬ SubmissionAccepted client request replies id :=
    fun accepted => untold _ accepted.1.choose_spec
  have unconfirmed := not_confirmedAt_of_not_accepted refused
  exact ⟨marks_of_missed untold (by omega), marks_of_missed refused (by omega),
    marks_of_missed unconfirmed (by omega), nofun,
    marks_of_missed (not_toldAgain_of_not_confirmedAt unconfirmed) (by omega), ⟨nofun, nofun⟩⟩

theorem earned_before (told : BalancesTold client request replies shown.before)
    (refused : ∀ id, ¬ SubmissionAccepted client request replies id) :
    Earned client request replies (.error error) shown 2 := by
  have unconfirmed := not_confirmedAt_of_not_accepted refused
  exact ⟨marks_before told (by omega), marks_of_missed refused (by omega),
    marks_of_missed unconfirmed (by omega), nofun,
    marks_of_missed (not_toldAgain_of_not_confirmedAt unconfirmed) (by omega), ⟨nofun, nofun⟩⟩

theorem earned_submitted (told : BalancesTold client request replies shown.before)
    (accepted : SubmissionAccepted client request replies shown.id)
    (unconfirmed : ∀ confirmation, ¬ ∃ size, ConfirmedAt client request replies confirmation size) :
    Earned client request replies (.error error) shown 3 :=
  ⟨marks_before told (by omega), marks_submitted accepted (by omega),
    marks_of_missed unconfirmed (by omega), nofun,
    marks_of_missed (not_toldAgain_of_not_confirmedAt unconfirmed) (by omega), ⟨nofun, nofun⟩⟩

theorem earned_confirmed (told : BalancesTold client request replies shown.before)
    (accepted : SubmissionAccepted client request replies shown.id)
    (confirmed : ConfirmedAt client request replies shown.confirmation size)
    (untold : ∀ balances, ¬ AmountsTold (behind size replies) balances) :
    Earned client request replies (.error error) shown 4 := by
  have untoldAgain (balances : Balances) : ¬ BalancesToldAgain client request replies balances := by
    intro given
    obtain ⟨_, _, also, told⟩ := given
    obtain ⟨_, rfl⟩ := confirmed.unique also
    exact untold balances told
  exact ⟨marks_before told (by omega), marks_submitted accepted (by omega),
    marks_confirmed confirmed (by omega), fun _ => confirmed.exists_confirmedIn,
    marks_of_missed untoldAgain (by omega), ⟨nofun, nofun⟩⟩

theorem earned_all {report : TransferReport} (told : BalancesTold client request replies shown.before)
    (accepted : SubmissionAccepted client request replies shown.id)
    (confirmed : ConfirmedAt client request replies shown.confirmation size)
    (again : AmountsTold (behind size replies) shown.after) :
    Earned client request replies (.ok report) shown 6 := by
  have toldAgain : BalancesToldAgain client request replies shown.after := ⟨_, size, confirmed, again⟩
  exact ⟨marks_before told (by omega), marks_submitted accepted (by omega),
    marks_confirmed confirmed (by omega), fun _ => confirmed.exists_confirmedIn,
    marks_of_passed toldAgain (fun _ also => toldAgain.unique also) rfl,
    ⟨fun _ => rfl, fun _ => ⟨report, rfl⟩⟩⟩

end

/-- An output without a limit that has taken lines. -/
def Output.ofLines (lines : List String) : Output := ⟨none, lines.flatMap Text.Utf8.encode⟩

/-- Where there is no limit, a line is written and the command goes on. -/
theorem runs_writeLine_bind_iff {text : String} {next : Command Dialogue α} {lines : List String}
    {outcome : Except Error α} :
    Runs (writeLine text >>= fun _ => next) (.ofLines lines) log outcome after ↔
      Runs next (.ofLines (lines ++ [text ++ "\n"])) log outcome after := by
  have taken : (Output.ofLines lines).take (Text.Utf8.encode (text ++ "\n")) =
      .ofLines (lines ++ [text ++ "\n"]) := by
    rw [Output.ofLines, Output.ofLines, List.flatMap_append, List.flatMap_singleton]
    rfl
  rw [runs_bind_iff]
  simp only [runs_writeLine_iff, taken]
  constructor
  · intro given
    rcases given with ⟨_, ⟨_, _, same⟩, _⟩ | ⟨_, _, _, _, ⟨rfl, rfl, _⟩, later, rfl⟩
    · cases same
    · exact later
  · intro later
    exact .inr ⟨(), _, [], log, ⟨rfl, rfl, rfl⟩, later, rfl⟩

theorem runs_writeBalances_bind_iff {balances : Balances} {next : Command Dialogue α}
    {lines : List String} {outcome : Except Error α} :
    Runs (writeBalances false balances >>= fun _ => next) (.ofLines lines) log outcome after ↔
      Runs next (.ofLines (lines ++ balanceLines balances)) log outcome after := by
  have first : label false "Sender account balance:" ++ s!"   {balances.sender} microAlgos" ++ "\n" =
      s!"Sender account balance:   {balances.sender} microAlgos\n" := by
    simp only [label, Bool.false_eq_true, if_false, String.append_assoc]
    rfl
  have second : label false "Receiver account balance:" ++ s!" {balances.receiver} microAlgos" ++ "\n" =
      s!"Receiver account balance: {balances.receiver} microAlgos\n" := by
    simp only [label, Bool.false_eq_true, if_false, String.append_assoc]
    rfl
  unfold writeBalances balanceLines
  rw [bind_assoc, runs_writeLine_bind_iff, runs_writeLine_bind_iff, first, second, List.append_assoc]
  rfl

/-- What a transfer writes behind its submission. -/
theorem exists_earned_of_settle {request : Transfer.Request} {outcome : Except Error TransferReport}
    {account : Account} {receiver : Address} {before : Balances} {fee : UInt64} {id : String}
    (told : BalancesTold client request replies before)
    (accepted : SubmissionAccepted client request replies id) (answered : Answered (behind 4 replies) log)
    (run : Runs (settle client request false account receiver before fee id)
      (.ofLines (balanceLines before)) log outcome after) :
    ∃ (shown : Shown) (count : Nat), shown.Written count after.written ∧
      Earned client request replies outcome shown count := by
  unfold settle at run
  rw [runs_writeLine_bind_iff] at run
  have able := told.1
  rcases (finds_ask able (Client.follows_awaitConfirmation able)).split answered run with
    ⟨rfl, ⟨error, rfl⟩, none⟩ | ⟨confirmation, _, _, ⟨visits, awaits, met, rfl⟩, answered, run⟩
  · refine ⟨⟨before, id, default, before⟩, 3, ⟨by simp, rfl⟩, earned_submitted told accepted ?_⟩
    intro confirmation given
    obtain ⟨_, _, visits, also, awaits, met, _⟩ := given
    obtain rfl := accepted.2.2.unique also.2.2
    exact none confirmation _ ⟨visits, awaits, met, rfl⟩
  have confirmed : ConfirmedAt client request replies confirmation (4 + visits.length) :=
    ⟨id, visits, accepted, awaits, met, rfl⟩
  rw [behind_behind] at answered
  rw [runs_writeLine_bind_iff] at run
  rcases (finds_fetchBalances able _ _).split answered run with
    ⟨rfl, ⟨error, rfl⟩, none⟩ | ⟨last, _, _, ⟨again, rfl⟩, answered, run⟩
  · exact ⟨⟨before, id, confirmation, before⟩, 4, ⟨by simp, rfl⟩, earned_confirmed told accepted confirmed
      fun balances again => none balances _ ⟨again, rfl⟩⟩
  rw [runs_writeBalances_bind_iff] at run
  obtain ⟨rfl, rfl, rfl⟩ := runs_pure_iff.mp run
  exact ⟨⟨before, id, confirmation, last⟩, 6, ⟨by simp, rfl⟩, earned_all told accepted confirmed again⟩

/-- What a transfer between known parties writes. -/
theorem exists_earned_of_pay {request : Transfer.Request} {outcome : Except Error TransferReport}
    {account : Account} {receiver : Address} (able : client.CanSend)
    (sends : Account.ofMnemonic request.senderMnemonic = .ok account)
    (receives : Address.parse request.receiver = .ok receiver) (answered : Answered replies log)
    (run : Runs (pay client request false account receiver) (.ofLines []) log outcome after) :
    ∃ (shown : Shown) (count : Nat), shown.Written count after.written ∧
      Earned client request replies outcome shown count := by
  rw [pay_eq] at run
  rcases (finds_fetchBalances able _ _).split answered run with
    ⟨rfl, ⟨error, rfl⟩, none⟩ | ⟨before, _, _, ⟨amounts, rfl⟩, answered, run⟩
  · exact ⟨default, 0, ⟨by simp, rfl⟩, earned_nothing _ fun balances told =>
      none balances _ ⟨told.2.2.2, rfl⟩⟩
  have told : BalancesTold client request replies before := ⟨able, ⟨_, sends⟩, ⟨_, receives⟩, amounts⟩
  rw [runs_writeBalances_bind_iff] at run
  rcases (finds_submitting able request account receiver).split answered run with
    ⟨rfl, ⟨error, rfl⟩, none⟩ | ⟨⟨fee, id⟩, _, _, ⟨⟨params, suggested, _⟩, accepts, rfl⟩, answered, run⟩
  · refine ⟨⟨before, "", default, before⟩, 2, ⟨by simp, rfl⟩, earned_before told ?_⟩
    intro id accepted
    obtain ⟨_, ⟨params, suggested⟩, accepts⟩ := accepted
    exact none (_, id) _ ⟨⟨params, suggested, rfl⟩, accepts, rfl⟩
  rw [behind_behind] at answered
  exact exists_earned_of_settle told ⟨⟨before, told⟩, ⟨params, suggested⟩, accepts⟩ answered run

/-- What a transfer writes, whatever becomes of it. -/
theorem exists_earned {request : Transfer.Request} {outcome : Except Error TransferReport}
    (answered : Answered replies log)
    (run : Runs (transfer client request false) (.ofLines []) log outcome after) :
    ∃ (shown : Shown) (count : Nat), shown.Written count after.written ∧
      Earned client request replies outcome shown count := by
  rw [transfer_eq] at run
  rcases (finds_check _).split answered run with
    ⟨rfl, ⟨error, rfl⟩, none⟩ | ⟨account, _, _, ⟨sends, rfl⟩, answered, run⟩
  · refine ⟨default, 0, ⟨by simp, rfl⟩, earned_nothing _ fun balances told => ?_⟩
    obtain ⟨_, ⟨account, sends⟩, _⟩ := told
    exact none account _ ⟨sends, rfl⟩
  rcases (finds_check _).split answered run with
    ⟨rfl, ⟨error, rfl⟩, none⟩ | ⟨receiver, _, _, ⟨receives, rfl⟩, answered, run⟩
  · refine ⟨default, 0, ⟨by simp, rfl⟩, earned_nothing _ fun balances told => ?_⟩
    obtain ⟨_, _, ⟨receiver, receives⟩, _⟩ := told
    exact none receiver _ ⟨receives, rfl⟩
  by_cases able : client.CanSend
  · exact exists_earned_of_pay able sends receives answered run
  · obtain ⟨_, rfl, rfl⟩ := runs_pay_of_unable able run
    exact ⟨default, 0, ⟨by simp, rfl⟩, earned_nothing _ fun balances told => able told.1⟩

/-- Whatever the replies are, a transfer has one run with them, and has written then as much of its report as
they have earned: nothing, the balances once the client can send, the parties are known and both accounts are
told, the identifier once the submission is accepted, the record once it is confirmed, and all once both
accounts are told again, where it succeeds. The identifier is shown where a submission among its requests is
accepted, and nowhere else. -/
theorem transfer_shows_earned (client : Client) (request : Transfer.Request) (replies : Nat → Reply) :
    ∃ log outcome written,
      (∀ run : List Exchange × (Except Error TransferReport × Bytes),
        Answered replies run.1 ∧ Conversation ((transfer client request false).start none) run.1 run.2 ↔
          run = (log, outcome, written)) ∧
      ∃ (shown : Shown) (count : Nat), shown.Written count written ∧
        Earned client request replies outcome shown count ∧
        Marks (PostedWith log) (3 ≤ count) shown.id := by
  obtain ⟨⟨log, outcome, written⟩, ⟨answered, conversation⟩, only⟩ :=
    existsUnique_conversation ((transfer client request false).start none) replies
  obtain ⟨last, run, rfl⟩ := conversation_start_iff.mp conversation
  obtain ⟨shown, count, lines, earned⟩ := exists_earned answered run
  refine ⟨log, outcome, last.written, fun run => ⟨only run, fun same => ?_⟩, shown, count, lines, earned,
    fun id => (postedWith_iff answered conversation).trans (earned.submitted id)⟩
  rw [same]
  exact ⟨answered, conversation⟩

/-- A node that answers up to the submission like the swift one tells the balances and accepts it. -/
private theorem accepted_blankRequest {replies : Nat → Reply}
    (same : ∀ index < 4, replies index = swiftReplies index) :
    BalancesTold localClient blankRequest replies ⟨5, 5⟩ ∧
      SubmissionAccepted localClient blankRequest replies "id" := by
  have account (index : Nat) (early : index < 2) :
      Client.interpret AccountInformation.shape.parse (replies index) = .ok ⟨"", 5, 0, ""⟩ := by
    have swift : swiftReplies index = accountReply := by
      rcases Nat.le_one_iff_eq_zero_or_eq_one.mp (Nat.le_of_lt_succ early) with rfl | rfl <;> rfl
    rw [same index (by omega), swift]
    exact interpret_replies.1
  have told : BalancesTold localClient blankRequest replies ⟨5, 5⟩ :=
    ⟨localClient_canSend, ⟨_, ofMnemonic_blankRequest⟩, ⟨_, parse_blankRequest⟩,
      ⟨"", 5, 0, ""⟩, ⟨"", 5, 0, ""⟩, account 0 (by decide), account 1 (by decide), rfl⟩
  have suggested : ∃ params, suggestedBy blankRequest.validityRounds (replies 2) = .ok params := by
    rw [same 2 (by decide)]
    exact ⟨_, suggestedBy_paramsReply⟩
  have accepts : Accepts (replies 3) "id" := by
    rw [same 3 (by decide)]
    exact Client.interpret_eq_ok_iff.mp interpret_replies.2.2
  exact ⟨told, ⟨_, told⟩, suggested, accepts⟩

/-- A swift node has all six lines written, and one that is cut off behind the submission three. -/
theorem transfer_shows_earned_blank :
    (∃ log report written confirmation, Answered swiftReplies log ∧
      Conversation ((transfer localClient blankRequest false).start none) log (.ok report, written) ∧
      confirmation.ConfirmedIn 8 ∧
      written = (Shown.lines ⟨⟨5, 5⟩, "id", confirmation, ⟨5, 5⟩⟩).flatMap Text.Utf8.encode) ∧
    ∃ log error written,
      Answered (fun index => if index < 4 then swiftReplies index else .dropped) log ∧
      Conversation ((transfer localClient blankRequest false).start none) log (.error error, written) ∧
      PostedWith log "id" ∧
      written = (balanceLines ⟨5, 5⟩ ++ ["Transaction ID: id\n"]).flatMap Text.Utf8.encode := by
  constructor
  · obtain ⟨log, outcome, written, runs, ⟨before, id, record, last⟩, count, ⟨_, rfl⟩, earned, _⟩ :=
      transfer_shows_earned localClient blankRequest swiftReplies
    obtain ⟨told, accepted⟩ := accepted_blankRequest fun index _ => rfl
    obtain ⟨confirmation, found, confirmed⟩ := exists_confirmed_pendingReply "id"
    have awaits : Awaits "id" blankRequest.waitRounds
        [(.status, statusReply), (.pending "id", pendingReply)] (.ok confirmation) :=
      .answered read_statusReply (.lookup [] (by decide) nofun (.confirmed found confirmed))
    have reached : ConfirmedAt localClient blankRequest swiftReplies confirmation 6 :=
      ⟨"id", _, accepted, awaits, ⟨rfl, rfl, trivial⟩, rfl⟩
    have again : BalancesToldAgain localClient blankRequest swiftReplies ⟨5, 5⟩ :=
      ⟨confirmation, 6, reached, ⟨"", 5, 0, ""⟩, ⟨"", 5, 0, ""⟩, interpret_replies.1,
        interpret_replies.1, rfl⟩
    obtain ⟨rfl, rfl⟩ := (earned.after _).mp again
    obtain ⟨_, rfl⟩ := (earned.before _).mp told
    obtain ⟨_, rfl⟩ := (earned.submitted _).mp accepted
    obtain ⟨_, rfl⟩ := (earned.confirmed _).mp ⟨6, reached⟩
    obtain ⟨report, rfl⟩ := earned.reported.mpr rfl
    obtain ⟨answered, conversation⟩ := (runs (log, .ok report, _)).mpr rfl
    exact ⟨log, report, _, confirmation, answered, conversation, confirmed, rfl⟩
  · obtain ⟨log, outcome, written, runs, ⟨before, id, record, last⟩, count, ⟨known, rfl⟩, earned, posted⟩ :=
      transfer_shows_earned localClient blankRequest
        fun index => if index < 4 then swiftReplies index else .dropped
    obtain ⟨told, accepted⟩ := accepted_blankRequest fun index early => if_pos early
    obtain ⟨_, rfl⟩ := (earned.before _).mp told
    obtain ⟨shown, rfl⟩ := (earned.submitted _).mp accepted
    have silent : ¬ 4 ≤ count := by
      intro more
      obtain ⟨_, _, _, _, awaits, met, _⟩ := (earned.confirmed record).mpr ⟨more, rfl⟩
      cases awaits with
      | answered passed _ =>
        obtain ⟨rfl, _⟩ := met
        cases passed
    obtain rfl : count = 3 := by
      simp only [List.mem_cons, List.not_mem_nil, or_false] at known
      omega
    cases outcome with
    | ok report => cases earned.reported.mp ⟨report, rfl⟩
    | error error =>
      obtain ⟨answered, conversation⟩ := (runs (log, .error error, _)).mpr rfl
      exact ⟨log, error, _, answered, conversation, (posted _).mpr ⟨shown, rfl⟩, rfl⟩

end WalletTools.Tools
