import WalletTools.Proofs.Json.Fields

/-! Records as they are read from objects. An object gives a record exactly if each field is held by one
member or by none that it can do without; members of other names may stand anywhere. -/
namespace WalletTools.Json

/-! ## Drafts -/

/-- What a field holds before and after the members of its name: only one that holds nothing yet takes a
value. -/
inductive Field.Gains (field : Field) :
    Option field.kind.Value → Option field.kind.Value → List (List Char) → Prop
  | nothing : Field.Gains field held? held? []
  | once (written : field.kind.Writes value piece) : Field.Gains field none (some value) [piece]

section

variable {rest left piece : List Char}

namespace Field

variable {field : Field} {held? now? : Option field.kind.Value}

theorem gains_nil_iff : field.Gains held? now? [] ↔ now? = held? := by
  constructor
  · intro gains
    cases gains
    rfl
  · rintro rfl
    exact .nothing

theorem gains_singleton_iff : field.Gains held? now? [piece] ↔
    held? = none ∧ ∃ value, field.kind.Writes value piece ∧ now? = some value := by
  constructor
  · intro gains
    cases gains with
    | once written => exact ⟨rfl, _, written, rfl⟩
  · intro given
    obtain ⟨rfl, value, written, rfl⟩ := given
    exact .once written

theorem gains_append_iff {front back : List (List Char)} : field.Gains held? now? (front ++ back) ↔
    ∃ middle?, field.Gains held? middle? front ∧ field.Gains middle? now? back := by
  cases front with
  | nil =>
    simp only [List.nil_append, gains_nil_iff]
    exact ⟨fun gains => ⟨_, rfl, gains⟩, fun ⟨_, same, gains⟩ => same ▸ gains⟩
  | cons piece front =>
    constructor
    · intro gains
      generalize all : piece :: front ++ back = pieces at gains
      cases gains with
      | nothing => cases all
      | once written =>
        obtain ⟨rfl, none⟩ := List.cons.inj all
        obtain ⟨rfl, rfl⟩ := List.append_eq_nil_iff.mp none
        exact ⟨_, .once written, .nothing⟩
    · intro given
      obtain ⟨middle?, first, later⟩ := given
      cases first with
      | once written =>
        cases later with
        | nothing => exact .once written

end Field

theorem piecesOf_append (name : String) (front back : List (String × List Char)) :
    piecesOf name (front ++ back) = piecesOf name front ++ piecesOf name back := by
  simp [piecesOf]

theorem piecesOf_cons (name : String) (member : String × List Char)
    (members : List (String × List Char)) :
    piecesOf name (member :: members) = piecesOf name [member] ++ piecesOf name members :=
  piecesOf_append name [member] members

theorem piecesOf_self (name : String) (piece : List Char) : piecesOf name [(name, piece)] = [piece] := by
  simp [piecesOf]

theorem piecesOf_other {name other : String} (different : other ≠ name) (piece : List Char) :
    piecesOf name [(other, piece)] = [] := by
  simp [piecesOf, different]

namespace Draft

/-- What the fields hold before and after members. -/
def Gains : (fields : List Field) → Draft fields → Draft fields → List (String × List Char) → Prop
  | [], _, _, _ => True
  | field :: fields, (held?, draft), (now?, later), members =>
    field.Gains held? now? (piecesOf field.name members) ∧ Gains fields draft later members

theorem gains_nil_iff {fields : List Field} {draft later : Draft fields} :
    Gains fields draft later [] ↔ later = draft := by
  induction fields with
  | nil => exact iff_of_true trivial rfl
  | cons field fields ih =>
    unfold Gains
    rw [ih, piecesOf, List.filter_nil, List.map_nil, Field.gains_nil_iff]
    exact Prod.ext_iff.symm

theorem gains_cons_iff {fields : List Field} {draft later : Draft fields} {member : String × List Char}
    {members : List (String × List Char)} : Gains fields draft later (member :: members) ↔
      ∃ middle, Gains fields draft middle [member] ∧ Gains fields middle later members := by
  induction fields with
  | nil => exact iff_of_true trivial ⟨(), trivial, trivial⟩
  | cons field fields ih =>
    unfold Gains
    rw [ih, piecesOf_cons, Field.gains_append_iff]
    constructor
    · intro given
      obtain ⟨⟨held?, first, second⟩, middle, others, rest⟩ := given
      exact ⟨(held?, middle), ⟨first, others⟩, second, rest⟩
    · intro given
      obtain ⟨⟨held?, middle⟩, ⟨first, others⟩, second, rest⟩ := given
      exact ⟨⟨held?, first, second⟩, middle, others, rest⟩

/-- A member of another name changes nothing. -/
theorem gains_other_iff {fields : List Field} {draft later : Draft fields} {name : String}
    (unknown : name ∉ fields.map (·.name)) :
    Gains fields draft later [(name, piece)] ↔ later = draft := by
  induction fields with
  | nil => exact iff_of_true trivial rfl
  | cons field fields ih =>
    rw [List.map_cons, List.mem_cons, not_or] at unknown
    unfold Gains
    rw [ih unknown.2, piecesOf_other unknown.1, Field.gains_nil_iff]
    exact Prod.ext_iff.symm

/-- What is done behind the name of a member. -/
def takes (fields : List Field) (draft : Draft fields) (name : String) : Scanner (Draft fields) :=
  match Draft.enter fields draft name with
  | some step => step
  | none => do
    expect ':'
    skip
    return draft

theorem takes_cons_other {field : Field} {fields : List Field} {name : String}
    (different : field.name ≠ name) (held? : Option field.kind.Value) (draft : Draft fields) :
    takes (field :: fields) (held?, draft) name = do return (held?, ← takes fields draft name) := by
  unfold takes
  rw [Draft.enter, if_neg different]
  cases Draft.enter fields draft name with
  | some step => rfl
  | none => simp only [Option.map_none, bind_assoc, pure_bind]

theorem reads_takes_iff {fields : List Field} {draft later : Draft fields} {name : String}
    {gap before : List Char} (distinct : (fields.map (·.name)).Nodup) (between : Blanks gap)
    (front : Blanks before) (written : WellFormed piece) (ended : Ended rest) :
    Reads (takes fields draft name) (gap ++ ':' :: (before ++ (piece ++ rest))) later left ↔
      Gains fields draft later [(name, piece)] ∧ left = rest := by
  have colon := reads_expect (by decide : isBlank ':' = false) between (before ++ (piece ++ rest))
  induction fields with
  | nil =>
    unfold takes Draft.enter
    dsimp only
    rw [colon.bind_iff, (written.reads front ended).bind_iff, reads_pure_iff]
    exact ⟨fun given => ⟨trivial, given.2⟩, fun given => ⟨rfl, given.2⟩⟩
  | cons field fields ih =>
    obtain ⟨held?, draft⟩ := draft
    obtain ⟨now?, later⟩ := later
    rw [List.map_cons, List.nodup_cons] at distinct
    by_cases named : field.name = name
    · subst named
      unfold takes Gains
      rw [Draft.enter, if_pos rfl, gains_other_iff distinct.1, piecesOf_self, Field.gains_singleton_iff]
      dsimp only
      rw [reads_refuse_iff]
      rw [colon.bind_iff, reads_bind_pure_iff]
      simp only [Kind.reads_iff written front ended]
      constructor
      · intro given
        obtain ⟨free, value, ⟨writes, rfl⟩, same⟩ := given
        cases same
        exact ⟨⟨⟨by simpa using free, value, writes, rfl⟩, rfl⟩, rfl⟩
      · intro given
        obtain ⟨⟨⟨rfl, value, writes, rfl⟩, rfl⟩, rfl⟩ := given
        exact ⟨by simp, value, ⟨writes, rfl⟩, rfl⟩
    · unfold Gains
      rw [takes_cons_other named, reads_bind_pure_iff, piecesOf_other (Ne.symm named),
        Field.gains_nil_iff]
      constructor
      · intro given
        obtain ⟨middle, read, same⟩ := given
        cases same
        obtain ⟨gains, rfl⟩ := (ih distinct.2).mp read
        exact ⟨⟨rfl, gains⟩, rfl⟩
      · intro given
        obtain ⟨⟨rfl, gains⟩, rfl⟩ := given
        exact ⟨later, (ih distinct.2).mpr ⟨gains, rfl⟩, rfl⟩

/-- A member that stands in a text is taken, or passed over, up to the mark that follows. -/
theorem reads_member_iff {member : String × List Char} {mark : Char}
    (written : MemberText .kept Verbatim member piece) (ended : Ended (mark :: rest)) :
    ∃ behind, Blanks behind ∧ ∀ {fields : List Field} {draft later : Draft fields} {left : List Char},
      (fields.map (·.name)).Nodup →
        (Reads (Draft.member fields draft) (piece ++ mark :: rest) later left ↔
          Gains fields draft later [member] ∧ left = behind ++ mark :: rest) := by
  obtain ⟨front, quoted, between, ⟨inside, ⟨written⟩, back⟩⟩ := written
  refine ⟨_, back, fun distinct => ?_⟩
  simp only [List.append_assoc, List.cons_append]
  rw [← reads_takes_iff distinct between inside written (ended.blanks back)]
  unfold Draft.member
  rw [(reads_expect (by decide) front _).bind_iff, (quoted.reads _).bind_iff]
  rfl

/-- One member is taken, and the others behind a comma. -/
theorem reads_members_succ_iff {fields : List Field} {member : String × List Char} {fuel : Nat}
    {draft later : Draft fields} (distinct : (fields.map (·.name)).Nodup)
    (written : MemberText .kept Verbatim member piece) (more : Bool) :
    Reads (Draft.members fields (fuel + 1) draft) (piece ++ separator '}' more :: rest) later left ↔
      ∃ middle, Gains fields draft middle [member] ∧
        Reads (if more then Draft.members fields fuel middle else return middle) rest later left := by
  have ended : Ended (separator '}' more :: rest) := ended_cons (by cases more <;> decide)
  obtain ⟨behind, blank, taken⟩ := reads_member_iff written ended
  have marked : Reads (continues '}') (behind ++ separator '}' more :: rest) more rest :=
    reads_continues (by decide) (by decide) blank more rest
  rw [Draft.members, reads_bind_iff]
  simp only [taken distinct]
  constructor
  · intro success
    obtain ⟨middle, _, ⟨gains, rfl⟩, read⟩ := success
    exact ⟨middle, gains, marked.bind_iff.mp read⟩
  · intro given
    obtain ⟨middle, gains, read⟩ := given
    exact ⟨middle, _, ⟨gains, rfl⟩, marked.bind_iff.mpr read⟩

/-- Members that stand in a text are taken one after the other. -/
theorem reads_members_iff {fields : List Field} {members : List (String × List Char)}
    (distinct : (fields.map (·.name)).Nodup)
    (written : ListText (MemberText .kept Verbatim) '}' members piece) :
    ∀ {draft later : Draft fields} {fuel : Nat} {left : List Char}, piece.length ≤ fuel →
      (Reads (Draft.members fields fuel draft) (piece ++ rest) later left ↔
        Gains fields draft later members ∧ left = rest) := by
  induction written with
  | last item =>
    intro draft later fuel left enough
    rw [List.length_append, List.length_singleton] at enough
    obtain ⟨fuel, rfl⟩ := Nat.exists_eq_add_one_of_ne_zero (show fuel ≠ 0 by omega)
    rw [List.append_assoc, List.singleton_append]
    refine (reads_members_succ_iff distinct item false).trans ?_
    simp only [Bool.false_eq_true, if_false, reads_pure_iff]
    constructor
    · intro given
      obtain ⟨_, gains, rfl, rfl⟩ := given
      exact ⟨gains, rfl⟩
    · intro given
      obtain ⟨gains, rfl⟩ := given
      exact ⟨later, gains, rfl, rfl⟩
  | more item _ ih =>
    intro draft later fuel left enough
    rw [List.length_append, List.length_cons] at enough
    obtain ⟨fuel, rfl⟩ := Nat.exists_eq_add_one_of_ne_zero (show fuel ≠ 0 by omega)
    rw [List.append_assoc, List.cons_append, gains_cons_iff]
    refine (reads_members_succ_iff distinct item true).trans ?_
    simp only [if_true, ih (show _ ≤ fuel by omega), ← and_assoc, exists_and_right]

end Draft

end

/-! ## Rows -/

/-- A field is held by one member, or by none if a value stands for it. -/
inductive Field.Holds (field : Field) (value : field.kind.Value) : List (List Char) → Prop
  | given (written : field.kind.Writes value piece) : Field.Holds field value [piece]
  | missing (fallback : field.default? = some value) : Field.Holds field value []

/-- The members hold a value for each field. -/
def Holds : (fields : List Field) → Row fields → List (String × List Char) → Prop
  | [], _, _ => True
  | field :: fields, (value, row), members =>
    field.Holds value (piecesOf field.name members) ∧ Holds fields row members

theorem exists_holds {fields : List Field} {row : Row fields} {members : List (String × List Char)}
    (holds : Holds fields row members) {field : Field} (known : field ∈ fields) :
    ∃ value, field.Holds value (piecesOf field.name members) := by
  induction fields with
  | nil => cases known
  | cons first fields ih =>
    obtain ⟨value, row⟩ := row
    obtain ⟨held, later⟩ := holds
    rcases List.mem_cons.mp known with rfl | known
    · exact ⟨value, held⟩
    · exact ih later known

section

variable {rest left piece : List Char}

theorem Field.exists_gains_iff {field : Field} {value : field.kind.Value} {pieces : List (List Char)} :
    (∃ held?, field.Gains none held? pieces ∧ (held? <|> field.default?) = some value) ↔
      field.Holds value pieces := by
  constructor
  · intro given
    obtain ⟨held?, gains, filled⟩ := given
    cases gains with
    | nothing => exact .missing filled
    | once written =>
      cases filled
      exact .given written
  · intro holds
    cases holds with
    | given written => exact ⟨_, .once written, rfl⟩
    | missing fallback => exact ⟨none, .nothing, fallback⟩

theorem Draft.finish_cons_iff {field : Field} {fields : List Field} {held? : Option field.kind.Value}
    {draft : Draft fields} {value : field.kind.Value} {row : Row fields} :
    Draft.finish (field :: fields) (held?, draft) = .ok (value, row) ↔
      (held? <|> field.default?) = some value ∧ draft.finish fields = .ok row := by
  rw [Draft.finish]
  cases (held? <|> field.default?) with
  | none => exact ⟨nofun, fun given => by cases given.1⟩
  | some other =>
    dsimp only
    rw [bind_eq_ok_iff, Option.some.injEq]
    constructor
    · intro given
      obtain ⟨_, finished, same⟩ := given
      cases same
      exact ⟨rfl, finished⟩
    · intro given
      obtain ⟨rfl, finished⟩ := given
      exact ⟨row, finished, rfl⟩

/-- The values of a record are found where members hold them. -/
theorem exists_finish_iff {fields : List Field} {row : Row fields} {members : List (String × List Char)} :
    (∃ draft, Draft.Gains fields (Draft.empty fields) draft members ∧ draft.finish fields = .ok row) ↔
      Holds fields row members := by
  induction fields with
  | nil => exact iff_of_true ⟨(), trivial, rfl⟩ trivial
  | cons field fields ih =>
    obtain ⟨value, row⟩ := row
    unfold Holds
    rw [← ih, ← Field.exists_gains_iff]
    constructor
    · intro given
      obtain ⟨⟨held?, draft⟩, ⟨gains, others⟩, finished⟩ := given
      obtain ⟨filled, finished⟩ := Draft.finish_cons_iff.mp finished
      exact ⟨⟨held?, gains, filled⟩, draft, others, finished⟩
    · intro given
      obtain ⟨⟨held?, gains, filled⟩, draft, others, finished⟩ := given
      exact ⟨(held?, draft), ⟨gains, others⟩, Draft.finish_cons_iff.mpr ⟨filled, finished⟩⟩

/-- Members keep their texts where the blanks in front of the first are dropped. -/
theorem listText_dropWhile {members : List (String × List Char)}
    (written : ListText (MemberText .kept Verbatim) '}' members piece) (rest : List Char) :
    ∃ body, ListText (MemberText .kept Verbatim) '}' members body ∧
      (piece ++ rest).dropWhile isBlank = body ++ rest := by
  have front {before text : List Char} (blank : Blanks before) :
      (before ++ '"' :: text).dropWhile isBlank = '"' :: text :=
    (dropWhile_eq_cons_iff (by decide)).mpr ⟨before, blank, rfl⟩
  cases written with
  | last item =>
    obtain ⟨blank, quoted, between, padded⟩ := item
    refine ⟨_, .last (.mk blanks_nil quoted between padded), ?_⟩
    simp only [List.append_assoc, List.cons_append, List.nil_append, front blank]
  | more item later =>
    obtain ⟨blank, quoted, between, padded⟩ := item
    refine ⟨_, .more (.mk blanks_nil quoted between padded) later, ?_⟩
    simp only [List.append_assoc, List.cons_append, List.nil_append, front blank]

theorem readObject_eq (fields : List Field) : readObject fields =
    closedOr '}' (liftM (Draft.finish fields (Draft.empty fields))) (do
      let draft ← Draft.members fields ((← get).length + 1) (Draft.empty fields)
      liftM (draft.finish fields)) := by
  unfold readObject closedOr
  refine congrArg (skipBlank >>= ·) (funext fun _ => congrArg (peek >>= ·) (funext fun first? => ?_))
  by_cases closed : first? = some '}'
  · simp only [if_pos closed, pure_bind]
  · simp only [if_neg closed]

theorem exists_finish_reads_iff {fields : List Field} {members : List (String × List Char)}
    {row : Row fields} {scanner : Scanner (Draft fields)} {text : List Char}
    (gains : ∀ {draft left}, Reads scanner text draft left ↔
      Draft.Gains fields (Draft.empty fields) draft members ∧ left = rest) :
    Reads (do liftM ((← scanner).finish fields)) text row left ↔ Holds fields row members ∧ left = rest := by
  rw [reads_bind_iff, ← exists_finish_iff]
  constructor
  · intro success
    obtain ⟨draft, _, read, finished⟩ := success
    obtain ⟨gained, rfl⟩ := gains.mp read
    obtain ⟨done, rfl⟩ := reads_liftM_iff.mp finished
    exact ⟨⟨draft, gained, done⟩, rfl⟩
  · intro given
    obtain ⟨⟨draft, gained, done⟩, rfl⟩ := given
    exact ⟨draft, left, gains.mpr ⟨gained, rfl⟩, reads_liftM_iff.mpr ⟨done, rfl⟩⟩

/-- An object that stands in a text gives the values that its members hold. -/
theorem reads_readObject_iff {fields : List Field} {members : List (String × List Char)}
    {row : Row fields} (distinct : (fields.map (·.name)).Nodup)
    (written : EnclosedText (MemberText .kept Verbatim) '{' '}' members piece) :
    ∃ body, piece = '{' :: body ∧
      (Reads (readObject fields) (body ++ rest) row left ↔ Holds fields row members ∧ left = rest) := by
  rw [readObject_eq]
  cases written with
  | empty blank =>
    refine ⟨_, rfl, ?_⟩
    rw [List.append_assoc, List.singleton_append, reads_closedOr_closed (by decide) blank]
    have gains {draft : Draft fields} {left : List Char} :
        Reads (pure (Draft.empty fields)) rest draft left ↔
          Draft.Gains fields (Draft.empty fields) draft [] ∧ left = rest := by
      rw [Draft.gains_nil_iff]
      exact reads_pure_iff
    exact exists_finish_reads_iff gains
  | filled items =>
    refine ⟨_, rfl, ?_⟩
    rw [reads_closedOr_open ((unclosed_member Verbatim).list _ _ rest items), (reads_get _).bind_iff]
    refine exists_finish_reads_iff ?_
    intro draft left
    obtain ⟨body, items, same⟩ := listText_dropWhile items rest
    rw [same]
    exact Draft.reads_members_iff distinct items (by simp only [List.length_append]; omega)

/-- An object is read as a record by the values that its members hold. -/
theorem Shape.parse_eq_ok_iff {shape : Shape α} {members : List (String × List Char)} {text : String}
    {value : α} (distinct : (shape.fields.map (·.name)).Nodup) (written : ObjectText members text) :
    shape.parse text = .ok value ↔ ∃ row, Holds shape.fields row members ∧ value = shape.build row := by
  unfold Shape.parse
  rw [whole_eq_ok_iff]
  unfold ObjectText at written
  generalize text.toList = letters at written ⊢
  obtain ⟨front, object, back⟩ := written
  rename_i before piece behind
  obtain ⟨body, rfl⟩ : ∃ body, piece = '{' :: body := by
    cases object <;> exact ⟨_, rfl⟩
  have read {rest : List Char} : Reads shape.scanner (before ++ ('{' :: body ++ behind)) value rest ↔
      ∃ row, Reads (readObject shape.fields) (body ++ behind) row rest ∧ value = shape.build row := by
    have dropped : (before ++ ('{' :: body ++ behind)).dropWhile isBlank = '{' :: (body ++ behind) :=
      (dropWhile_eq_cons_iff (by decide)).mpr ⟨before, front, rfl⟩
    unfold Shape.scanner
    rw [(reads_skipBlank _).bind_iff, dropped, (reads_peek _).bind_iff]
    have taken : Reads (discard next) ('{' :: (body ++ behind)) () (body ++ behind) :=
      reads_discard_iff.mpr ⟨_, reads_next_iff.mpr rfl⟩
    exact taken.bind_iff.trans reads_bind_pure_iff
  have holds {row : Row shape.fields} {rest : List Char} :
      Reads (readObject shape.fields) (body ++ behind) row rest ↔
        Holds shape.fields row members ∧ rest = behind := by
    obtain ⟨_, same, holds⟩ := reads_readObject_iff distinct object
    cases same
    exact holds
  simp only [read, holds]
  constructor
  · intro success
    obtain ⟨_, ⟨row, ⟨held, rfl⟩, built⟩, _⟩ := success
    exact ⟨row, held, built⟩
  · intro given
    obtain ⟨row, held, built⟩ := given
    exact ⟨behind, ⟨row, ⟨held, rfl⟩, built⟩, back⟩

end

end WalletTools.Json
