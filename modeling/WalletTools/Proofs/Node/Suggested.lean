import WalletTools.Node.Records
import WalletTools.Proofs.Encoding.Base64
import WalletTools.Proofs.Except

/-! What a node suggests for the next transactions: its hash in base 64 is read back, and the window of
rounds starts at the last round and never ends before it. -/
namespace WalletTools.Node.TransactionParams

theorem toSuggested_eq_ok_iff {params : TransactionParams} {validityRounds : UInt64}
    {suggested : Ledger.SuggestedParams} : params.toSuggested validityRounds = .ok suggested ↔
      params.genesisHash = Base64.encode suggested.genesisHash.toList ∧
        suggested = {
          fee := params.fee
          minFee := params.minFee
          firstValid := params.lastRound
          lastValid := Ledger.addCapped params.lastRound validityRounds
          genesisId := params.genesisId
          genesisHash := suggested.genesisHash
          flatFee := false } := by
  unfold toSuggested
  rw [bind_eq_ok_iff]
  constructor
  · intro given
    obtain ⟨bytes, decoded, given⟩ := given
    have written := Base64.decode_eq_ok_iff.mp (mapError_eq_ok_iff.mp decoded)
    cases found : (FixedBytes.ofList? bytes : Option (FixedBytes 32)) with
    | none =>
      rw [found] at given
      cases given
    | some genesisHash =>
      rw [found] at given
      cases given
      rw [FixedBytes.ofList?_eq_some_iff.mp found] at written
      exact ⟨written, rfl⟩
  · intro given
    obtain ⟨written, same⟩ := given
    refine ⟨_, mapError_eq_ok_iff.mpr (Base64.decode_eq_ok_iff.mpr written), ?_⟩
    rw [FixedBytes.ofList?_toList]
    exact congrArg Except.ok same.symm

/-- A hash is refused for its text or, if that writes bytes, for their number. -/
theorem toSuggested_eq_error_iff {params : TransactionParams} {validityRounds : UInt64} {error : Error} :
    params.toSuggested validityRounds = .error error ↔
      (∃ fault, Base64.decode (Text.Utf8.encode params.genesisHash) = .error fault ∧
        error = .invalidResponse (.genesisHash fault)) ∨
      ∃ bytes, params.genesisHash = Base64.encode bytes ∧ bytes.length ≠ 32 ∧
        error = .invalidResponse (.genesisHashSize bytes.length) := by
  unfold toSuggested
  rw [bind_eq_error_iff, mapError_eq_error_iff]
  refine or_congr Iff.rfl (exists_congr fun bytes => ?_)
  rw [mapError_eq_ok_iff, Base64.decode_eq_ok_iff]
  refine and_congr_right fun _ => ?_
  by_cases sized : bytes.length = 32
  · have found : (FixedBytes.ofList? bytes : Option (FixedBytes 32)) = some ⟨bytes, sized⟩ :=
      FixedBytes.ofList?_eq_some_iff.mpr rfl
    rw [found]
    exact ⟨nofun, fun given => absurd sized given.1⟩
  · have none : (FixedBytes.ofList? bytes : Option (FixedBytes 32)) = none := dif_neg sized
    rw [none]
    exact ⟨fun failed => ⟨sized, (Except.error.inj failed).symm⟩,
      fun given => congrArg Except.error given.2.symm⟩

/-! ## Windows of rounds -/

/-- What is suggested for so many rounds: the node's own hash and fees, and a window that starts at its last
round and takes in as many rounds as there are. -/
structure Suggests (params : TransactionParams) (rounds : UInt64)
    (suggested : Ledger.SuggestedParams) : Prop where
  genesisHash : Base64.HashText suggested.genesisHash params.genesisHash
  genesisId : suggested.genesisId = params.genesisId
  fee : suggested.fee = params.fee
  minFee : suggested.minFee = params.minFee
  rated : suggested.flatFee = false
  firstValid : suggested.firstValid = params.lastRound
  ordered : suggested.firstValid ≤ suggested.lastValid
  window : suggested.lastValid.toNat - suggested.firstValid.toNat =
    min rounds.toNat (2 ^ 64 - 1 - params.lastRound.toNat)

/-- A window that is cut off at the largest round is told by its first round and its length. -/
private theorem eq_addCapped_iff {first last rounds : UInt64} : last = Ledger.addCapped first rounds ↔
    first ≤ last ∧ last.toNat - first.toNat = min rounds.toNat (2 ^ 64 - 1 - first.toNat) := by
  have below := first.toNat_lt
  have end_below := last.toNat_lt
  rw [← UInt64.toNat_inj, UInt64.le_iff_toNat_le, Ledger.addCapped, Ledger.toNat_cap]
  omega

theorem suggests_iff {params : TransactionParams} {rounds : UInt64} {suggested : Ledger.SuggestedParams} :
    params.toSuggested rounds = .ok suggested ↔ params.Suggests rounds suggested := by
  rw [toSuggested_eq_ok_iff, ← Base64.hashText_iff]
  obtain ⟨fee, minFee, firstValid, lastValid, genesisId, genesisHash, flatFee⟩ := suggested
  constructor
  · intro given
    obtain ⟨text, same⟩ := given
    cases same
    obtain ⟨ordered, window⟩ := eq_addCapped_iff.mp rfl
    exact ⟨text, rfl, rfl, rfl, rfl, rfl, ordered, window⟩
  · intro suggests
    obtain ⟨text, rfl, rfl, rfl, rfl, rfl, ordered, window⟩ := suggests
    have last : lastValid = Ledger.addCapped params.lastRound rounds :=
      eq_addCapped_iff.mpr ⟨ordered, window⟩
    subst last
    exact ⟨text, rfl⟩

/-- A hash is suggested exactly where its text is given. -/
theorem exists_toSuggested_iff {params : TransactionParams} {rounds : UInt64} {hash : FixedBytes 32} :
    (∃ suggested, params.toSuggested rounds = .ok suggested ∧ suggested.genesisHash = hash) ↔
      Base64.HashText hash params.genesisHash := by
  constructor
  · intro given
    obtain ⟨suggested, read, rfl⟩ := given
    exact (suggests_iff.mp read).genesisHash
  · intro text
    let suggested : Ledger.SuggestedParams := {
      fee := params.fee
      minFee := params.minFee
      firstValid := params.lastRound
      lastValid := Ledger.addCapped params.lastRound rounds
      genesisId := params.genesisId
      genesisHash := hash
      flatFee := false }
    exact ⟨suggested, toSuggested_eq_ok_iff.mpr ⟨Base64.hashText_iff.mp text, rfl⟩, rfl⟩

/-- Nothing but its hash makes a response a bad one. -/
theorem toSuggested_refused_iff {params : TransactionParams} {rounds : UInt64} :
    (∃ fault, params.toSuggested rounds = .error (.invalidResponse fault)) ↔
      ∀ hash, ¬ Base64.HashText hash params.genesisHash := by
  constructor
  · intro failed hash text
    obtain ⟨fault, failed⟩ := failed
    obtain ⟨suggested, read, _⟩ := exists_toSuggested_iff.mpr text
    cases failed.symm.trans read
  · intro foreign
    cases read : params.toSuggested rounds with
    | ok suggested => exact absurd (exists_toSuggested_iff.mp ⟨suggested, read, rfl⟩) (foreign _)
    | error error =>
      rcases toSuggested_eq_error_iff.mp read with ⟨fault, _, told⟩ | ⟨bytes, _, _, told⟩
      · exact ⟨_, congrArg Except.error told⟩
      · exact ⟨_, congrArg Except.error told⟩

/-- A text that writes thirty-two bytes is a hash, so each hash has one text and every other text is refused;
what is suggested then is the node's, and no window ends before it starts. -/
theorem toSuggested_one_text :
    (∀ params rounds suggested,
      toSuggested params rounds = .ok suggested ↔ Suggests params rounds suggested) ∧
    (∀ params rounds hash,
      (∃ suggested, toSuggested params rounds = .ok suggested ∧ suggested.genesisHash = hash) ↔
        Base64.HashText hash params.genesisHash) ∧
    (∀ hash, ∃! text, Base64.HashText hash text) ∧
    ∀ params rounds, (∃ fault, toSuggested params rounds = .error (.invalidResponse fault)) ↔
      ∀ hash, ¬ Base64.HashText hash params.genesisHash :=
  ⟨fun _ _ _ => suggests_iff, fun _ _ _ => exists_toSuggested_iff, Base64.existsUnique_hashText,
    fun _ _ => toSuggested_refused_iff⟩

end WalletTools.Node.TransactionParams
