import WalletTools.Bytes

/-! Forms: which pieces of bytes stand for a value. A step of reading follows a form if it succeeds
exactly where such a piece is in front and takes that piece and no more, whatever comes behind it.
Steps that follow forms are put together as the forms are. -/
namespace WalletTools

/-- The pieces of bytes that stand for each value. -/
abbrev Form (α : Type) := α → Bytes → Prop

namespace Form

/-- No piece, and one value only. -/
def only (value : α) : Form α := fun other piece => other = value ∧ piece = []

/-- A piece of one form, and behind it a piece of a form that depends on the first value. -/
def andThen (form : Form α) (later : α → Form β) : Form β := fun value piece =>
  ∃ first front back, form first front ∧ later first value back ∧ piece = front ++ back

/-- A piece for each value, in the order of the values and without anything in between. -/
inductive Each (form : Form α) : List α → Bytes → Prop
  | nil : Each form [] []
  | cons (first : form value front) (later : Each form values back) :
      Each form (value :: values) (front ++ back)

theorem Each.flatMap {form : Form α} {write : α → Bytes} {values : List α}
    (stands : ∀ value ∈ values, form value (write value)) : Each form values (values.flatMap write) := by
  induction values with
  | nil => exact .nil
  | cons value values ih =>
    rw [List.flatMap_cons]
    exact .cons (stands value List.mem_cons_self)
      (ih fun later member => stands later (List.mem_cons_of_mem _ member))

theorem Each.pair {form : Form α} (first : form left front) (second : form right back) :
    Each form [left, right] (front ++ back) := by
  have each := Each.cons first (.cons second .nil)
  rwa [List.append_nil] at each

theorem Each.exists_of_mem {form : Form α} (each : Each form values piece) (member : value ∈ values) :
    ∃ part, form value part := by
  induction each with
  | nil => cases member
  | cons first _ ih =>
    cases member with
    | head => exact ⟨_, first⟩
    | tail _ later => exact ih later

/-- Where each value that fits has one piece only, so do several values. -/
theorem each_iff {form : Form α} {fits : α → Prop} {write : α → Bytes}
    (one : ∀ value piece, form value piece ↔ fits value ∧ piece = write value) :
    Each form values piece ↔ (∀ value ∈ values, fits value) ∧ piece = values.flatMap write := by
  constructor
  · intro each
    induction each with
    | nil => exact ⟨fun _ absent => absurd absent List.not_mem_nil, rfl⟩
    | cons first _ ih =>
      obtain ⟨fit, rfl⟩ := (one _ _).mp first
      obtain ⟨others, rfl⟩ := ih
      exact ⟨List.forall_mem_cons.mpr ⟨fit, others⟩, List.flatMap_cons.symm⟩
  · intro given
    obtain ⟨fit, rfl⟩ := given
    exact .flatMap fun value member => (one _ _).mpr ⟨fit value member, rfl⟩

/-- The pieces of a form for what its values become. -/
def image (form : Form α) (change : α → β) : Form β := fun value piece =>
  ∃ before, form before piece ∧ value = change before

/-- Pieces that stand for values one by one, each in the form of its own entry. -/
inductive InTurn (forms : ι → Form α) : List ι → List α → List Bytes → Prop
  | nil : InTurn forms [] [] []
  | cons (first : forms entry value piece) (later : InTurn forms entries values pieces) :
      InTurn forms (entry :: entries) (value :: values) (piece :: pieces)

end Form

/-- The last of the values that some entries give. -/
def lastGiven (given? : ι → Option α) (entries : List ι) : Option α :=
  (entries.filterMap given?).getLast?

theorem lastGiven_append (given? : ι → Option α) (front back : List ι) :
    lastGiven given? (front ++ back) = (lastGiven given? back).or (lastGiven given? front) := by
  simp [lastGiven, List.getLast?_append]

theorem lastGiven_singleton (given? : ι → Option α) (entry : ι) :
    lastGiven given? [entry] = given? entry := by
  cases found : given? entry <;> simp [lastGiven, found]

theorem mem_of_lastGiven {given? : ι → Option α} {entries : List ι} {value : α}
    (given : lastGiven given? entries = some value) : ∃ entry ∈ entries, given? entry = some value :=
  List.mem_filterMap.mp (List.mem_of_getLast? given)

/-- A part of a state that every entry either sets or leaves alone is what the last entry set it to. -/
theorem get_foldl_eq_lastGiven (set : σ → ι → σ) (get : σ → Option α) (given? : ι → Option α)
    (step : ∀ state entry, get (set state entry) = (given? entry).or (get state))
    (entries : List ι) (state : σ) :
    get (entries.foldl set state) = (lastGiven given? entries).or (get state) := by
  induction entries generalizing state with
  | nil => rfl
  | cons entry entries ih =>
    rw [List.foldl_cons, ih, step, ← Option.or_assoc, ← lastGiven_singleton given? entry,
      ← lastGiven_append, List.singleton_append]

/-- A step of reading, which gives a value or a fault. -/
abbrev Step (ε α : Type) := ExceptT ε (StateM Bytes) α

/-- What a step makes of bytes, and the bytes that are left. -/
def outcome (step : Step ε α) (bytes : Bytes) : Except ε α × Bytes := step.run bytes

theorem outcome_pure (value : α) (bytes : Bytes) :
    outcome (pure value : Step ε α) bytes = (.ok value, bytes) := rfl

theorem outcome_throw (fault : ε) (bytes : Bytes) :
    outcome (throw fault : Step ε α) bytes = (.error fault, bytes) := rfl

theorem outcome_get (bytes : Bytes) : outcome (get : Step ε Bytes) bytes = (.ok bytes, bytes) := rfl

theorem outcome_bind (step : Step ε α) (next : α → Step ε β) (bytes : Bytes) :
    outcome (step >>= next) bytes = match outcome step bytes with
      | (.ok value, rest) => outcome (next value) rest
      | (.error fault, rest) => (.error fault, rest) := by
  change (match outcome step bytes with | (result, rest) => ExceptT.bindCont next result rest) = _
  rcases outcome step bytes with ⟨_ | _, _⟩ <;> rfl

theorem outcome_bind_eq_ok {step : Step ε α} {next : α → Step ε β} {bytes rest : Bytes} {value : β} :
    outcome (step >>= next) bytes = (.ok value, rest) ↔
      ∃ first left, outcome step bytes = (.ok first, left) ∧
        outcome (next first) left = (.ok value, rest) := by
  rw [outcome_bind]
  constructor
  · intro success
    cases found : outcome step bytes with
    | mk result left =>
      cases result with
      | error fault => simp [found] at success
      | ok first => exact ⟨first, left, rfl, by simpa only [found] using success⟩
  · intro stands
    obtain ⟨first, left, found, success⟩ := stands
    simpa only [found] using success

/-- The one step or the other, as it turns out whether a third would succeed. Both go on from where that
one would have begun. -/
def trying (probe : Step δ γ) (one two : Step ε α) : Step ε α := do
  match (outcome probe (← get)).1 with
  | .ok _ => one
  | .error _ => two

theorem outcome_trying (probe : Step δ γ) (one two : Step ε α) (bytes : Bytes) :
    outcome (trying probe one two) bytes = match (outcome probe bytes).1 with
      | .ok _ => outcome one bytes
      | .error _ => outcome two bytes := by
  unfold trying
  rw [outcome_bind, outcome_get]
  dsimp only
  cases (outcome probe bytes).1 <;> rfl

/-- The step succeeds exactly where a piece of the form is in front, and takes that piece. -/
def Follows (step : Step ε α) (form : Form α) : Prop :=
  ∀ bytes value rest, outcome step bytes = (.ok value, rest) ↔
    ∃ piece, form value piece ∧ bytes = piece ++ rest

namespace Follows

variable {step : Step ε α} {form other : Form α}

theorem congr (follows : Follows step form) (same : ∀ value piece, form value piece ↔ other value piece) :
    Follows step other := by
  intro bytes value rest
  simp only [follows bytes value rest, same]

theorem complete (follows : Follows step form) (stands : form value piece) (rest : Bytes) :
    outcome step (piece ++ rest) = (.ok value, rest) :=
  (follows _ _ _).mpr ⟨piece, stands, rfl⟩

theorem pure (value : α) : Follows (pure value : Step ε α) (.only value) := by
  intro bytes other rest
  simp only [outcome_pure, Form.only, Prod.mk.injEq, Except.ok.injEq]
  constructor
  · intro stands
    obtain ⟨rfl, rfl⟩ := stands
    exact ⟨[], ⟨rfl, rfl⟩, rfl⟩
  · intro stands
    obtain ⟨piece, ⟨rfl, rfl⟩, rfl⟩ := stands
    exact ⟨rfl, rfl⟩

theorem throw (fault : ε) : Follows (throw fault : Step ε α) (fun _ _ => False) := by
  intro bytes value rest
  simp [outcome_throw]

theorem bind {next : α → Step ε β} {later : α → Form β} (first : Follows step form)
    (second : ∀ value, Follows (next value) (later value)) :
    Follows (step >>= next) (form.andThen later) := by
  intro bytes value rest
  rw [outcome_bind_eq_ok]
  constructor
  · intro stands
    obtain ⟨middle, left, found, success⟩ := stands
    obtain ⟨front, stands, rfl⟩ := (first _ _ _).mp found
    obtain ⟨back, follows, rfl⟩ := (second _ _ _ _).mp success
    exact ⟨front ++ back, ⟨middle, front, back, stands, follows, rfl⟩, by simp⟩
  · intro stands
    obtain ⟨piece, ⟨middle, front, back, stands, follows, rfl⟩, rfl⟩ := stands
    refine ⟨middle, back ++ rest, ?_, (second middle).complete follows rest⟩
    rw [List.append_assoc]
    exact first.complete stands _

theorem map (follows : Follows step form) (change : α → β) :
    Follows (step >>= fun value => Pure.pure (change value))
      (fun value piece => ∃ before, form before piece ∧ value = change before) := by
  refine (follows.bind fun value => .pure (change value)).congr fun value piece => ?_
  constructor
  · intro stands
    obtain ⟨before, front, back, stands, ⟨rfl, rfl⟩, rfl⟩ := stands
    exact ⟨before, by simpa using stands, rfl⟩
  · intro stands
    obtain ⟨before, stands, rfl⟩ := stands
    exact ⟨before, piece, [], stands, ⟨rfl, rfl⟩, by simp⟩

theorem image (follows : Follows step form) (change : α → β) :
    Follows (change <$> step) (form.image change) := by
  rw [map_eq_pure_bind]
  exact follows.map change

/-- Telling a fault otherwise changes nothing of what is read. -/
theorem adapt (follows : Follows step form) (tell : ε → ε') :
    Follows (ExceptT.adapt tell step) form := by
  intro bytes value rest
  rw [← follows bytes value rest]
  have told : outcome (ExceptT.adapt tell step) bytes =
      ((outcome step bytes).1.mapError tell, (outcome step bytes).2) := rfl
  rw [told]
  rcases outcome step bytes with ⟨fault | value, left⟩
  · change (Except.error (tell fault), left) = _ ↔ _
    simp
  · change (Except.ok value, left) = _ ↔ _
    simp

/-- Where two steps begin with different headers, reading a header first tells which of them to take. -/
theorem trying {probe : Step δ γ} {header : Form γ} {one two : Step ε α} (tried : Follows probe header)
    (first : Follows one form) (second : Follows two other)
    (headed : ∀ value piece, form value piece →
      ∃ found front back, header found front ∧ piece = front ++ back)
    (apart : ∀ value piece found front left right, other value piece → header found front →
      front ++ left ≠ piece ++ right) :
    Follows (trying probe one two) (fun value piece => form value piece ∨ other value piece) := by
  intro bytes value rest
  rw [outcome_trying]
  constructor
  · intro success
    split at success
    · obtain ⟨piece, stands, rfl⟩ := (first _ _ _).mp success
      exact ⟨piece, .inl stands, rfl⟩
    · obtain ⟨piece, stands, rfl⟩ := (second _ _ _).mp success
      exact ⟨piece, .inr stands, rfl⟩
  · intro stands
    obtain ⟨piece, stands | stands, rfl⟩ := stands
    · obtain ⟨found, front, back, begins, rfl⟩ := headed value piece stands
      rw [List.append_assoc, tried.complete begins, ← List.append_assoc]
      exact first.complete stands rest
    · cases probed : outcome probe (piece ++ rest) with
      | mk result left =>
        cases result with
        | ok found =>
          obtain ⟨front, begins, same⟩ := (tried _ _ _).mp probed
          exact absurd same.symm (apart value piece found front left rest stands begins)
        | error fault => exact second.complete stands rest

/-- Steps that are taken in turn follow their forms in turn. -/
theorem inTurn {step : ι → Step ε α} {forms : ι → Form α}
    (follows : ∀ entry, Follows (step entry) (forms entry)) (entries : List ι) :
    Follows (entries.mapM step) (fun values piece =>
      ∃ pieces, Form.InTurn forms entries values pieces ∧ piece = pieces.flatten) := by
  induction entries with
  | nil =>
    rw [List.mapM_nil]
    refine (Follows.pure []).congr fun values piece => ?_
    constructor
    · intro stands
      obtain ⟨rfl, rfl⟩ := stands
      exact ⟨[], .nil, rfl⟩
    · intro stands
      obtain ⟨_, turns, rfl⟩ := stands
      cases turns
      exact ⟨rfl, rfl⟩
  | cons entry entries ih =>
    rw [List.mapM_cons]
    refine ((follows entry).bind fun value => ih.map (value :: ·)).congr fun values piece => ?_
    constructor
    · intro stands
      obtain ⟨value, front, _, first, ⟨_, ⟨pieces, turns, rfl⟩, rfl⟩, rfl⟩ := stands
      exact ⟨front :: pieces, .cons first turns, rfl⟩
    · intro stands
      obtain ⟨_, turns, rfl⟩ := stands
      cases turns with
      | cons first later => exact ⟨_, _, _, first, ⟨_, ⟨_, later, rfl⟩, rfl⟩, rfl⟩

end Follows

end WalletTools
