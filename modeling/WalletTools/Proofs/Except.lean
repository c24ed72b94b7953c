import Mathlib.Data.List.Forall2

/-! Steps that may fail: when a sequence of them succeeds, and with which fault it fails. -/
namespace WalletTools

variable {step : ι → Except ε α}

theorem bind_eq_ok_iff {first : Except ε α} {next : α → Except ε β} {result : β} :
    first >>= next = .ok result ↔ ∃ value, first = .ok value ∧ next value = .ok result := by
  cases first with
  | error fault => simp [bind, Except.bind]
  | ok value => simp [bind, Except.bind]

theorem bind_eq_error_iff {first : Except ε α} {next : α → Except ε β} {fault : ε} :
    first >>= next = .error fault ↔
      first = .error fault ∨ ∃ value, first = .ok value ∧ next value = .error fault := by
  cases first with
  | error other => simp [bind, Except.bind]
  | ok value => simp [bind, Except.bind]

/-- Telling a fault otherwise changes no success. -/
theorem mapError_eq_ok_iff {outcome : Except ε α} {tell : ε → δ} {value : α} :
    outcome.mapError tell = .ok value ↔ outcome = .ok value := by
  cases outcome <;> simp [Except.mapError]

theorem mapError_eq_error_iff {outcome : Except ε α} {tell : ε → δ} {fault : δ} :
    outcome.mapError tell = .error fault ↔ ∃ cause, outcome = .error cause ∧ fault = tell cause := by
  cases outcome <;> simp [Except.mapError, eq_comm]

theorem toOption_eq_some_iff {outcome : Except ε α} {value : α} :
    outcome.toOption = some value ↔ outcome = .ok value := by
  cases outcome <;> simp [Except.toOption]

/-- A step that is taken only where nothing has to be refused before it. -/
theorem refuse_eq_ok_iff {bad : Prop} [Decidable bad] {fault : ε} {next : Unit → Except ε β}
    {result : β} : (if bad then (throw fault : Except ε Unit) >>= next else next ()) = .ok result ↔
      ¬ bad ∧ next () = .ok result := by
  by_cases refused : bad
  · rw [if_pos refused]
    exact ⟨nofun, fun given => absurd refused given.1⟩
  · rw [if_neg refused]
    exact (and_iff_right refused).symm

theorem refuse_eq_error_iff {bad : Prop} [Decidable bad] {fault other : ε} {next : Unit → Except ε β} :
    (if bad then (throw fault : Except ε Unit) >>= next else next ()) = .error other ↔
      bad ∧ other = fault ∨ ¬ bad ∧ next () = .error other := by
  by_cases refused : bad
  · rw [if_pos refused]
    exact ⟨fun told => .inl ⟨refused, (Except.error.inj told).symm⟩, fun given =>
      given.elim (fun told => congrArg Except.error told.2.symm) fun other => absurd refused other.1⟩
  · rw [if_neg refused]
    exact ⟨fun told => .inr ⟨refused, told⟩, fun given =>
      given.elim (fun told => absurd told.1 refused) fun other => other.2⟩

theorem mapM_eq_ok_iff {entries : List ι} {values : List α} :
    entries.mapM step = .ok values ↔
      List.Forall₂ (fun entry value => step entry = .ok value) entries values := by
  induction entries generalizing values with
  | nil =>
    rw [List.forall₂_nil_left_iff]
    exact ⟨fun done => (Except.ok.inj done).symm, fun empty => congrArg Except.ok empty.symm⟩
  | cons entry entries ih =>
    rw [List.mapM_cons, bind_eq_ok_iff]
    constructor
    · intro success
      obtain ⟨value, first, success⟩ := success
      obtain ⟨later, rest, done⟩ := bind_eq_ok_iff.mp success
      cases done
      exact .cons first (ih.mp rest)
    · intro each
      cases each with
      | cons first rest => exact ⟨_, first, bind_eq_ok_iff.mpr ⟨_, ih.mpr rest, rfl⟩⟩

/-- A sequence of steps fails with the first of them that fails; those behind it are not taken. -/
theorem mapM_eq_error_iff {entries : List ι} {fault : ε} :
    entries.mapM step = .error fault ↔ ∃ before entry behind, entries = before ++ entry :: behind ∧
      (∀ earlier ∈ before, ∃ value, step earlier = .ok value) ∧ step entry = .error fault := by
  induction entries with
  | nil =>
    refine ⟨nofun, fun given => ?_⟩
    obtain ⟨before, entry, behind, split, _⟩ := given
    cases before <;> cases split
  | cons first entries ih =>
    rw [List.mapM_cons, bind_eq_error_iff]
    constructor
    · intro failed
      rcases failed with refused | ⟨value, taken, failed⟩
      · exact ⟨[], first, entries, rfl, nofun, refused⟩
      · rcases bind_eq_error_iff.mp failed with later | ⟨_, _, done⟩
        · obtain ⟨before, entry, behind, rfl, earlier, refused⟩ := ih.mp later
          exact ⟨first :: before, entry, behind, rfl, List.forall_mem_cons.mpr ⟨⟨value, taken⟩, earlier⟩,
            refused⟩
        · cases done
    · intro given
      obtain ⟨before, entry, behind, split, earlier, refused⟩ := given
      cases before with
      | nil =>
        cases split
        exact .inl refused
      | cons _ before =>
        cases split
        obtain ⟨⟨value, taken⟩, others⟩ := List.forall_mem_cons.mp earlier
        exact .inr ⟨value, taken, bind_eq_error_iff.mpr (.inl (ih.mpr ⟨before, entry, behind, rfl, others,
          refused⟩))⟩

end WalletTools
