import WalletTools.Proofs.Json.Integers
import WalletTools.Proofs.Node.Errand

/-! Waiting for a confirmation ends with the first decisive answer. Lookups and waits alternate: a lookup
that leaves the matter open is followed by waiting for one more round, and what decides first, a lookup, a
wait that fails or the number of rounds, is the result. -/
namespace WalletTools.Node

/-! ## Records -/

namespace Pending

variable {pending : Pending}

/-- The transaction is in a round, by its record. -/
def ConfirmedIn (pending : Pending) (round : Nat) : Prop :=
  pending.record.member? "confirmed-round" = some (.number (.integer round)) ∧
    0 < round ∧ round < 2 ^ 64

/-- The node has dropped the transaction for a reason, by its record. -/
def DroppedFor (pending : Pending) (reason : String) : Prop :=
  pending.record.member? "pool-error" = some (.text reason) ∧ reason ≠ ""

theorem confirmedRound?_eq_some_iff (fits : pending.record.Fits) {round : UInt64} :
    pending.confirmedRound? = some round ↔
      pending.record.member? "confirmed-round" = some (.number (.integer round.toNat)) := by
  unfold confirmedRound?
  rw [Option.bind_eq_bind, Option.bind_eq_some_iff]
  constructor
  · intro given
    obtain ⟨member, found, natural⟩ := given
    rw [found, (Json.natural?_eq_some_iff (fits.member found)).mp natural]
  · intro found
    exact ⟨_, found, (Json.natural?_eq_some_iff (fits.member found)).mpr rfl⟩

theorem isConfirmed_iff (fits : pending.record.Fits) :
    pending.isConfirmed = true ↔ ∃ round, pending.ConfirmedIn round := by
  unfold isConfirmed
  rw [decide_eq_true_iff]
  constructor
  · intro positive
    cases found : pending.confirmedRound? with
    | none =>
      rw [found] at positive
      exact absurd positive (by decide)
    | some round =>
      rw [found] at positive
      exact ⟨round.toNat, (confirmedRound?_eq_some_iff fits).mp found, positive, round.toNat_lt⟩
  · intro given
    obtain ⟨round, found, positive, below⟩ := given
    have same : (UInt64.ofNat round).toNat = round := by rw [UInt64.toNat_ofNat', Nat.mod_eq_of_lt below]
    rw [← same] at found positive
    rw [(confirmedRound?_eq_some_iff fits).mpr found]
    exact positive

/-- A record gives at most one reason. -/
theorem DroppedFor.eq_poolError {reason : String} (dropped : pending.DroppedFor reason) :
    reason = pending.poolError := by
  obtain ⟨found, _⟩ := dropped
  rw [poolError, found]
  rfl

theorem droppedFor_poolError_iff : pending.DroppedFor pending.poolError ↔ pending.poolError ≠ "" := by
  refine ⟨fun dropped => dropped.2, fun named => ⟨?_, named⟩⟩
  revert named
  unfold poolError
  cases found : pending.record.member? "pool-error" with
  | none => exact fun named => absurd rfl named
  | some member =>
    cases member with
    | text reason => exact fun _ => rfl
    | _ => exact fun named => absurd rfl named

end Pending

/-! ## Answers -/

/-- A reply to a lookup that decides the result. -/
inductive Decides (id : String) (reply : Reply) : Except Error Pending → Prop
  | confirmed {round : Nat} (found : (Errand.pending id).read reply = .ok pending)
      (confirmed : pending.ConfirmedIn round) : Decides id reply (.ok pending)
  | dropped (found : (Errand.pending id).read reply = .ok pending)
      (unconfirmed : ∀ round, ¬ pending.ConfirmedIn round) (dropped : pending.DroppedFor reason) :
      Decides id reply (.error (.rejected id reason))
  | failed (failed : (Errand.pending id).read reply = .error error)
      (known : ∀ message, error ≠ .http 404 message) : Decides id reply (.error error)

/-- A reply to a lookup that leaves the matter open. -/
inductive Undecided (id : String) (reply : Reply) : Prop
  | unknown (unknown : (Errand.pending id).read reply = .error (.http 404 message))
  | pending (found : (Errand.pending id).read reply = .ok pending)
      (unconfirmed : ∀ round, ¬ pending.ConfirmedIn round)
      (kept : ∀ reason, ¬ pending.DroppedFor reason)

/-- What a lookup decides, if it does. -/
def verdict? (id : String) : Except Error Pending → Option (Except Error Pending)
  | .ok pending =>
    if pending.isConfirmed then some (.ok pending)
    else if pending.poolError ≠ "" then some (.error (.rejected id pending.poolError))
    else none
  | .error error => if error.isNotFound then none else some (.error error)

/-- A record that is found is one that is read. -/
theorem fits_of_read {id : String} {reply : Reply} {pending : Pending}
    (found : (Errand.pending id).read reply = .ok pending) : pending.record.Fits := by
  obtain ⟨record, read, made⟩ := bind_eq_ok_iff.mp found
  have same : pending.record = record := by
    unfold Pending.ofRecord at made
    split at made
    · cases made
      rfl
    · cases made
  obtain ⟨_, _, _, _, _, parsed⟩ := Client.interpret_eq_ok_iff.mp read
  rw [same]
  exact Json.fits_of_parse parsed

theorem isNotFound_iff {error : Error} :
    error.isNotFound = true ↔ ∃ message, error = .http 404 message := by
  constructor
  · intro unknown
    unfold Error.isNotFound at unknown
    split at unknown
    · exact ⟨_, rfl⟩
    · cases unknown
  · intro given
    obtain ⟨message, rfl⟩ := given
    rfl

private theorem verdict?_of_decides {id : String} {reply : Reply} {result : Except Error Pending}
    (decides : Decides id reply result) :
    verdict? id ((Errand.pending id).read reply) = some result := by
  cases decides with
  | confirmed found confirmed =>
    have named := (Pending.isConfirmed_iff (fits_of_read found)).mpr ⟨_, confirmed⟩
    rw [found, verdict?, if_pos named]
  | @dropped pending reason found unconfirmed dropped =>
    have unnamed : ¬ pending.isConfirmed = true := fun named =>
      (Pending.isConfirmed_iff (fits_of_read found)).mp named |>.elim unconfirmed
    obtain rfl := dropped.eq_poolError
    rw [found, verdict?, if_neg unnamed, if_pos dropped.2]
  | failed failed known =>
    have found : ¬ Error.isNotFound _ = true := fun unknown =>
      (isNotFound_iff.mp unknown).elim known
    rw [failed, verdict?, if_neg found]

private theorem verdict?_of_undecided {id : String} {reply : Reply} (undecided : Undecided id reply) :
    verdict? id ((Errand.pending id).read reply) = none := by
  cases undecided with
  | unknown unknown => rw [unknown, verdict?, if_pos (isNotFound_iff.mpr ⟨_, rfl⟩)]
  | @pending pending found unconfirmed kept =>
    have unnamed : ¬ pending.isConfirmed = true := fun named =>
      (Pending.isConfirmed_iff (fits_of_read found)).mp named |>.elim unconfirmed
    have silent : ¬ pending.poolError ≠ "" := fun told =>
      kept _ (Pending.droppedFor_poolError_iff.mpr told)
    rw [found, verdict?, if_neg unnamed, if_neg silent]

/-- Every reply decides the matter or leaves it open. -/
theorem decides_or_undecided (id : String) (reply : Reply) :
    (∃ result, Decides id reply result) ∨ Undecided id reply := by
  cases found : (Errand.pending id).read reply with
  | error error =>
    by_cases unknown : ∃ message, error = .http 404 message
    · obtain ⟨message, rfl⟩ := unknown
      exact .inr (.unknown found)
    · exact .inl ⟨_, .failed found (not_exists.mp unknown)⟩
  | ok pending =>
    by_cases confirmed : ∃ round, pending.ConfirmedIn round
    · obtain ⟨round, confirmed⟩ := confirmed
      exact .inl ⟨_, .confirmed found confirmed⟩
    · by_cases dropped : ∃ reason, pending.DroppedFor reason
      · obtain ⟨reason, dropped⟩ := dropped
        exact .inl ⟨_, .dropped found (not_exists.mp confirmed) dropped⟩
      · exact .inr (.pending found (not_exists.mp confirmed) (not_exists.mp dropped))

theorem verdict?_eq_some_iff {id : String} {reply : Reply} {result : Except Error Pending} :
    verdict? id ((Errand.pending id).read reply) = some result ↔ Decides id reply result := by
  refine ⟨fun given => ?_, verdict?_of_decides⟩
  rcases decides_or_undecided id reply with ⟨other, decides⟩ | undecided
  · rw [verdict?_of_decides decides] at given
    cases given
    exact decides
  · rw [verdict?_of_undecided undecided] at given
    cases given

/-- A reply decides on one result only. -/
theorem Decides.unique {id : String} {reply : Reply} {result other : Except Error Pending}
    (decides : Decides id reply result) (also : Decides id reply other) : result = other :=
  Option.some.inj ((verdict?_of_decides decides).symm.trans (verdict?_of_decides also))

theorem Decides.not_undecided {id : String} {reply : Reply} {result : Except Error Pending}
    (decides : Decides id reply result) : ¬ Undecided id reply := fun undecided => by
  cases (verdict?_of_decides decides).symm.trans (verdict?_of_undecided undecided)

theorem verdict?_eq_none_iff {id : String} {reply : Reply} :
    verdict? id ((Errand.pending id).read reply) = none ↔ Undecided id reply := by
  refine ⟨fun given => ?_, verdict?_of_undecided⟩
  rcases decides_or_undecided id reply with ⟨other, decides⟩ | undecided
  · rw [verdict?_of_decides decides] at given
    cases given
  · exact undecided

/-! ## Rounds -/

/-- Lookups and waits from a round on, by their replies. -/
def polls (id : String) : (round : Nat) → List (Reply × Reply) → List Visit
  | _, [] => []
  | round, (lookup, wait) :: later =>
    (.pending id, lookup) :: (.statusAfter round, wait) :: polls id (round + 1) later

/-- Every lookup leaves the matter open and every wait succeeds. -/
def AllOpen (id : String) (answers : List (Reply × Reply)) : Prop :=
  ∀ answer ∈ answers, Undecided id answer.1 ∧
    ∃ status, Client.interpret Status.shape.parse answer.2 = .ok status

/-- The visits that look for a transaction so many times at most from a round on, up to the first
answer that decides, and what that answer is. -/
inductive FirstDecisive (id : String) (waitRounds : UInt64) (start count : Nat) :
    List Visit → Except Error Pending → Prop
  | lookup (answers : List (Reply × Reply)) (few : answers.length < count) (allOpen : AllOpen id answers)
      (decides : Decides id reply result) :
      FirstDecisive id waitRounds start count
        (polls id start answers ++ [(.pending id, reply)]) result
  | wait (answers : List (Reply × Reply)) (few : answers.length < count) (allOpen : AllOpen id answers)
      (undecided : Undecided id reply)
      (failed : Client.interpret Status.shape.parse wait = .error error) :
      FirstDecisive id waitRounds start count
        (polls id start answers ++
          [(.pending id, reply), (.statusAfter (start + answers.length), wait)]) (.error error)
  | timeout (answers : List (Reply × Reply)) (all : answers.length = count) (allOpen : AllOpen id answers) :
      FirstDecisive id waitRounds start count (polls id start answers) (.error (.timeout id waitRounds))

section

variable {id : String} {waitRounds : UInt64} {start count : Nat} {visits : List Visit}
  {result : Except Error Pending}

theorem firstDecisive_zero_iff : FirstDecisive id waitRounds start 0 visits result ↔
    visits = [] ∧ result = .error (.timeout id waitRounds) := by
  constructor
  · intro first
    cases first with
    | lookup _ few => exact absurd few (Nat.not_lt_zero _)
    | wait _ few => exact absurd few (Nat.not_lt_zero _)
    | timeout answers all =>
      cases List.eq_nil_of_length_eq_zero all
      exact ⟨rfl, rfl⟩
  · intro given
    obtain ⟨rfl, rfl⟩ := given
    exact .timeout [] rfl nofun

/-- What the first lookup and the wait behind it leave to the later ones. -/
theorem firstDecisive_succ_iff : FirstDecisive id waitRounds start (count + 1) visits result ↔
    ∃ reply, (Decides id reply result ∧ visits = [(.pending id, reply)]) ∨
      (Undecided id reply ∧ ∃ wait,
        (∃ error, Client.interpret Status.shape.parse wait = .error error ∧ result = .error error ∧
          visits = [(.pending id, reply), (.statusAfter start, wait)]) ∨
        ∃ status later, Client.interpret Status.shape.parse wait = .ok status ∧
          FirstDecisive id waitRounds (start + 1) count later result ∧
          visits = (.pending id, reply) :: (.statusAfter start, wait) :: later) := by
  have later (answers : List (Reply × Reply)) :
      start + (answers.length + 1) = start + 1 + answers.length := by omega
  constructor
  · intro first
    cases first with
    | lookup answers few allOpen decides =>
      cases answers with
      | nil => exact ⟨_, .inl ⟨decides, rfl⟩⟩
      | cons answer answers =>
        obtain ⟨⟨undecided, status, passed⟩, allOpen⟩ := List.forall_mem_cons.mp allOpen
        exact ⟨answer.1, .inr ⟨undecided, answer.2, .inr ⟨status, _, passed,
          .lookup answers (Nat.lt_of_succ_lt_succ few) allOpen decides, rfl⟩⟩⟩
    | wait answers few allOpen undecided failed =>
      cases answers with
      | nil => exact ⟨_, .inr ⟨undecided, _, .inl ⟨_, failed, rfl, rfl⟩⟩⟩
      | cons answer answers =>
        obtain ⟨⟨passes, status, passed⟩, allOpen⟩ := List.forall_mem_cons.mp allOpen
        refine ⟨answer.1, .inr ⟨passes, answer.2, .inr ⟨status, _, passed,
          .wait answers (Nat.lt_of_succ_lt_succ few) allOpen undecided failed, ?_⟩⟩⟩
        rw [List.length_cons, later]
        rfl
    | timeout answers all allOpen =>
      cases answers with
      | nil => cases all
      | cons answer answers =>
        obtain ⟨⟨undecided, status, passed⟩, allOpen⟩ := List.forall_mem_cons.mp allOpen
        exact ⟨answer.1, .inr ⟨undecided, answer.2, .inr ⟨status, _, passed,
          .timeout answers (Nat.succ.inj all) allOpen, rfl⟩⟩⟩
  · intro given
    obtain ⟨reply, ⟨decides, rfl⟩ | ⟨undecided, wait, given⟩⟩ := given
    · exact .lookup [] (Nat.zero_lt_succ count) nofun decides
    rcases given with ⟨error, failed, rfl, rfl⟩ | ⟨status, _, passed, first, rfl⟩
    · exact .wait [] (Nat.zero_lt_succ count) nofun undecided failed
    have passes : Undecided id reply ∧ ∃ status, Client.interpret Status.shape.parse wait = .ok status :=
      ⟨undecided, status, passed⟩
    cases first with
    | lookup answers few allOpen decides =>
      exact .lookup ((reply, wait) :: answers) (Nat.succ_lt_succ few)
        (List.forall_mem_cons.mpr ⟨passes, allOpen⟩) decides
    | wait answers few allOpen undecided failed =>
      rw [← later]
      exact .wait ((reply, wait) :: answers) (Nat.succ_lt_succ few)
        (List.forall_mem_cons.mpr ⟨passes, allOpen⟩) undecided failed
    | timeout answers all allOpen =>
      exact .timeout ((reply, wait) :: answers) (congrArg Nat.succ all)
        (List.forall_mem_cons.mpr ⟨passes, allOpen⟩)

end

/-- The round behind the last one that a node has seen, or the largest. -/
def roundBehind (last : UInt64) : Nat := min (last.toNat + 1) (2 ^ 64 - 1)

/-- How often a transaction is looked for at most: no rounds to wait for are no limit but the largest
round. -/
def lookups (last waitRounds : UInt64) : Nat :=
  let left := 2 ^ 64 - 1 - roundBehind last
  if waitRounds = 0 then left else min waitRounds.toNat left

theorem roundBehind_add_lookups_lt (last waitRounds : UInt64) :
    roundBehind last + lookups last waitRounds < 2 ^ 64 := by
  unfold lookups roundBehind
  dsimp only
  split <;> omega

/-- The visits of waiting for a confirmation, and what comes of it: the status tells from which round
on, and the first decisive answer is the result. -/
inductive Awaits (id : String) (waitRounds : UInt64) : List Visit → Except Error Pending → Prop
  | unanswered (failed : Errand.status.read reply = .error error) :
      Awaits id waitRounds [(.status, reply)] (.error error)
  | answered (passed : Errand.status.read reply = .ok status)
      (first : FirstDecisive id waitRounds (roundBehind status.lastRound)
        (lookups status.lastRound waitRounds) visits result) :
      Awaits id waitRounds ((.status, reply) :: visits) result

/-! ## The loop -/

namespace Client

variable {client : Client} {id : String} {waitRounds : UInt64}

private theorem run_awaitFrom_succ (left : Nat) (round : UInt64) :
    (client.awaitFrom id waitRounds (left + 1) round).run =
      (client.perform (.pending id)).run >>= fun found =>
        match verdict? id found with
        | some result => .done result
        | none => (do
          let _ ← client.perform (.statusAfter round.toNat)
          client.awaitFrom id waitRounds left (round + 1)).run := by
  rw [awaitFrom, pendingTransaction_eq_perform, statusAfterBlock_eq_perform]
  simp only [Functor.discard, map_const, Function.comp, bind_map_left]
  refine (ExceptT.run_bind_lift _ _).trans ?_
  refine congrArg ((client.perform (.pending id)).run >>= ·) (funext fun found => ?_)
  cases found with
  | ok pending =>
    dsimp only [verdict?]
    split
    · rfl
    · split <;> rfl
  | error error =>
    dsimp only [verdict?]
    cases error.isNotFound <;> rfl

/-- What follows a lookup. -/
private def afterLookup (id : String) (waitRounds : UInt64) (start count : Nat)
    (found : Except Error Pending) : Script (Except Error Pending) :=
  match verdict? id found with
  | some result => .only result
  | none => (Errand.statusAfter start).script.andThen
      (.orFail fun _ => FirstDecisive id waitRounds (start + 1) count)

private theorem andThen_afterLookup_iff {start count : Nat} {visits : List Visit}
    {result : Except Error Pending} :
    (Errand.pending id).script.andThen (afterLookup id waitRounds start count) visits result ↔
      FirstDecisive id waitRounds start (count + 1) visits result := by
  rw [firstDecisive_succ_iff]
  constructor
  · intro given
    obtain ⟨_, _, back, ⟨reply, rfl, rfl⟩, given, rfl⟩ := given
    refine ⟨reply, ?_⟩
    cases decided : verdict? id ((Errand.pending id).read reply) with
    | some verdict =>
      rw [afterLookup, decided] at given
      obtain ⟨rfl, rfl⟩ := given
      exact .inl ⟨verdict?_eq_some_iff.mp decided, rfl⟩
    | none =>
      rw [afterLookup, decided] at given
      refine .inr ⟨verdict?_eq_none_iff.mp decided, ?_⟩
      obtain ⟨outcome, _, later, ⟨wait, rfl, same⟩, given, rfl⟩ := given
      refine ⟨wait, ?_⟩
      cases outcome with
      | error error =>
        obtain ⟨rfl, rfl⟩ := given
        exact .inl ⟨error, same.symm, rfl, rfl⟩
      | ok status => exact .inr ⟨status, later, same.symm, given, rfl⟩
  · intro given
    obtain ⟨reply, ⟨decides, rfl⟩ | ⟨undecided, wait, given⟩⟩ := given
    · refine ⟨_, [(.pending id, reply)], [], ⟨reply, rfl, rfl⟩, ?_, rfl⟩
      rw [afterLookup, verdict?_eq_some_iff.mpr decides]
      exact ⟨rfl, rfl⟩
    have script (later : List Visit) (outcome : Except Error Status)
        (same : outcome = Client.interpret Status.shape.parse wait)
        (told : Script.orFail (fun _ => FirstDecisive id waitRounds (start + 1) count) outcome later result) :
        (Errand.pending id).script.andThen (afterLookup id waitRounds start count)
          ((.pending id, reply) :: (.statusAfter start, wait) :: later) result := by
      refine ⟨_, [(.pending id, reply)], _, ⟨reply, rfl, rfl⟩, ?_, rfl⟩
      rw [afterLookup, verdict?_eq_none_iff.mpr undecided]
      exact ⟨outcome, [(.statusAfter start, wait)], later, ⟨wait, rfl, same⟩, told, rfl⟩
    rcases given with ⟨error, failed, rfl, rfl⟩ | ⟨status, later, passed, first, rfl⟩
    · exact script [] _ failed.symm ⟨rfl, rfl⟩
    · exact script later _ passed.symm first

/-- The loop ends with the first decisive answer. -/
theorem follows_awaitFrom (able : client.CanSend) {left : Nat} {round : UInt64}
    (below : round.toNat + left < 2 ^ 64) :
    client.Follows (client.awaitFrom id waitRounds left round).run
      (FirstDecisive id waitRounds round.toNat left) := by
  -- The sum of the round and the lookups left stays the same, so that no round is counted past the largest.
  induction left generalizing round with
  | zero => exact (follows_done _).congr fun visits result => firstDecisive_zero_iff.symm
  | succ left ih =>
    have counted : (round + 1).toNat = round.toNat + 1 := by
      rw [UInt64.toNat_add, UInt64.toNat_one, Nat.mod_eq_of_lt (by omega)]
    have later : client.Follows (client.awaitFrom id waitRounds left (round + 1)).run
        (FirstDecisive id waitRounds (round.toNat + 1) left) := by
      rw [← counted]
      exact ih (by omega)
    have loop : client.Follows (client.awaitFrom id waitRounds (left + 1) round).run
        ((Errand.pending id).script.andThen (afterLookup id waitRounds round.toNat left)) := by
      rw [run_awaitFrom_succ]
      refine (follows_perform able _).bind fun found => ?_
      unfold afterLookup
      cases verdict? id found with
      | some result => exact follows_done result
      | none => exact (follows_perform able _).run_bind fun _ => later
    exact loop.congr fun visits result => andThen_afterLookup_iff

theorem toNat_addCapped_one (last : UInt64) : (Ledger.addCapped last 1).toNat = roundBehind last := by
  rw [Ledger.addCapped, Ledger.toNat_cap, UInt64.toNat_one, roundBehind]

theorem lastRound_sub (last : UInt64) :
    (lastRound (Ledger.addCapped last 1) waitRounds).toNat - (Ledger.addCapped last 1).toNat =
      lookups last waitRounds := by
  unfold lastRound lookups
  rw [toNat_addCapped_one]
  dsimp only
  split
  · rfl
  · rw [Ledger.addCapped, Ledger.toNat_cap, toNat_addCapped_one]
    omega

/-- Waiting for a confirmation asks for the status and then loops from the round behind the last. -/
theorem follows_awaitConfirmation (able : client.CanSend) :
    client.Follows (client.awaitConfirmation id waitRounds).run (Awaits id waitRounds) := by
  have loop : client.Follows (client.awaitConfirmation id waitRounds).run
      (Errand.status.script.andThen (.orFail fun status =>
        FirstDecisive id waitRounds (roundBehind status.lastRound)
          (lookups status.lastRound waitRounds))) := by
    unfold awaitConfirmation
    rw [status_eq_perform]
    refine (follows_perform able _).run_bind fun status => ?_
    dsimp only
    rw [lastRound_sub, ← toNat_addCapped_one]
    apply follows_awaitFrom able
    rw [toNat_addCapped_one]
    exact roundBehind_add_lookups_lt status.lastRound waitRounds
  refine loop.congr fun visits result => ?_
  constructor
  · intro given
    obtain ⟨outcome, _, later, ⟨reply, rfl, same⟩, told, rfl⟩ := given
    cases outcome with
    | error error =>
      obtain ⟨rfl, rfl⟩ := told
      exact .unanswered same.symm
    | ok status => exact .answered same.symm told
  · intro awaits
    cases awaits with
    | unanswered failed => exact ⟨_, _, [], ⟨_, rfl, failed.symm⟩, ⟨rfl, rfl⟩, rfl⟩
    | answered passed first => exact ⟨_, [_], _, ⟨_, rfl, passed.symm⟩, first, rfl⟩

/-- Waiting for a confirmation is answered by the first decisive reply: a client that can send visits
its node as `Awaits` tells and in no other way, with the result told there; one that cannot fails
without a request; and every sequence of replies leads to one end. -/
theorem awaitConfirmation_first_decisive (client : Client) (id : String) (waitRounds : UInt64) :
    (client.CanSend → ∀ log result,
      Conversation (client.awaitConfirmation id waitRounds).run log result ↔
        ∃ visits, client.Sends visits log ∧ Awaits id waitRounds visits result) ∧
    (¬ client.CanSend → ∀ log result,
      Conversation (client.awaitConfirmation id waitRounds).run log result ↔
        log = [] ∧ result = .error .transport) ∧
    ∀ replies, ∃! run : List Exchange × Except Error Pending, Answered replies run.1 ∧
      Conversation (client.awaitConfirmation id waitRounds).run run.1 run.2 := by
  refine ⟨fun able => follows_awaitConfirmation able, fun unable log result => ?_, fun replies =>
    existsUnique_conversation _ replies⟩
  have lost : (client.awaitConfirmation id waitRounds).run = .done (.error .transport) :=
    run_perform_bind_of_unable unable .status _
  rw [lost, conversation_done_iff]

end Client

/-! ## A run that is confirmed -/

/-- The node has seen seven rounds. -/
def statusReply : Reply := .answer 200 .utf8 (Text.Utf8.encode "[7]")

/-- The node has the transaction in its eighth round. -/
def pendingReply : Reply := .answer 200 .utf8 (Text.Utf8.encode "\x7b\"confirmed-round\":8\x7d")

theorem read_statusReply : Errand.status.read statusReply = .ok ⟨7, "", 0⟩ := by
  change Client.interpret Status.shape.parse statusReply = _
  exact Client.interpret_eq_ok_iff.mpr ⟨200, _, _, rfl, rfl, by decide +kernel⟩

theorem exists_confirmed_pendingReply (id : String) : ∃ confirmation,
    (Errand.pending id).read pendingReply = .ok confirmation ∧ confirmation.ConfirmedIn 8 := by
  have eighth : ((Errand.pending id).read pendingReply).toOption.bind Pending.confirmedRound? = some 8 := by
    change (Client.interpret Json.parse pendingReply >>= Pending.ofRecord).toOption.bind _ = _
    decide +kernel
  obtain ⟨confirmation, found, round⟩ := Option.bind_eq_some_iff.mp eighth
  rw [toOption_eq_some_iff] at found
  exact ⟨confirmation, found, (Pending.confirmedRound?_eq_some_iff (fits_of_read found)).mp round, by decide,
    by decide⟩

/-- A transaction that the node does not know at first is confirmed by the second lookup. -/
theorem awaitConfirmation_first_decisive_second : localClient.CanSend ∧ ∃ log confirmation,
    Conversation (localClient.awaitConfirmation "id" 10).run log (.ok confirmation) ∧
      confirmation.ConfirmedIn 8 ∧ localClient.Sends [(.status, statusReply),
        (.pending "id", .answer 404 .utf8 []), (.statusAfter 8, statusReply),
        (.pending "id", pendingReply)] log := by
  obtain ⟨confirmation, found, confirmed⟩ := exists_confirmed_pendingReply "id"
  have unknown : (Errand.pending "id").read (.answer 404 .utf8 []) = .error (.http 404 "") := rfl
  have first : FirstDecisive "id" 10 8 (lookups 7 10)
      [(.pending "id", .answer 404 .utf8 []), (.statusAfter 8, statusReply), (.pending "id", pendingReply)]
      (.ok confirmation) := by
    refine .lookup [(.answer 404 .utf8 [], statusReply)] (by decide) ?_ (.confirmed found confirmed)
    exact List.forall_mem_singleton.mpr ⟨.unknown unknown, _, read_statusReply⟩
  obtain ⟨log, sent⟩ := Client.exists_sends localClient_canSend _
  exact ⟨localClient_canSend, log, confirmation,
    ((Client.awaitConfirmation_first_decisive localClient "id" 10).1 localClient_canSend _ _).mpr
      ⟨_, sent, .answered read_statusReply first⟩, confirmed, sent⟩

end WalletTools.Node
