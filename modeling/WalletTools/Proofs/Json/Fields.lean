import WalletTools.Json.Shape
import WalletTools.Proofs.Json.Integers
import WalletTools.Proofs.Json.Values

/-! The values of a record's fields as they are read. What gives a field its value can be passed over as
well, so that where a value stands in a text, it is read exactly if it is written there. -/
namespace WalletTools.Json

section

variable {rules other : Rules} {text rest left piece : List Char}

/-! ## Kept and passed over -/

/-- Two steps read the same. -/
def Agree (one two : Scanner α) : Prop := ∀ text value rest,
  Reads one text value rest ↔ Reads two text value rest

theorem Agree.refl (scanner : Scanner α) : Agree scanner scanner := fun _ _ _ => Iff.rfl

theorem Agree.bind {one two : Scanner α} {next later : α → Scanner β} (first : Agree one two)
    (second : ∀ value, Agree (next value) (later value)) : Agree (one >>= next) (two >>= later) := by
  intro text value rest
  rw [reads_bind_iff, reads_bind_iff]
  exact exists_congr fun _ => exists_congr fun _ =>
    and_congr (first _ _ _) (second _ _ _ _)

theorem agree_readDigits : Agree (readDigits rules) (readDigits other) :=
  fun _ _ _ => reads_readDigits_iff.trans reads_readDigits_iff.symm

theorem agree_readFraction : Agree (readFraction rules) (readFraction other) := by
  refine (Agree.refl get).bind fun text => ?_
  split
  · rw [map_eq_pure_bind, map_eq_pure_bind]
    exact (Agree.refl _).bind fun _ => agree_readDigits.bind fun _ => .refl _
  · exact .refl _

theorem agree_readExponent : Agree (readExponent rules) (readExponent other) := by
  refine (Agree.refl get).bind fun text => ?_
  split
  · split
    · split <;> exact (Agree.refl _).bind fun _ => agree_readDigits.bind fun _ => .refl _
    · exact .refl _
  · exact .refl _

/-- Which numerals are read is no matter of rules. -/
theorem agree_readNumeral (negative : Bool) :
    Agree (readNumeral rules negative) (readNumeral other negative) := by
  refine agree_readDigits.bind fun whole => ?_
  dsimp only
  split
  · exact .refl _
  · exact agree_readFraction.bind fun _ => agree_readExponent.bind fun _ => .refl _

theorem Numeral.Means.passed {numeral : Numeral} {value : Number} (means : numeral.Means rules value) :
    ∃ value, numeral.Means .passed value := by
  rcases means with found | ⟨none, _, _⟩
  · exact ⟨value, .inl found⟩
  · exact ⟨_, .inr ⟨none, rfl, rfl⟩⟩

theorem Reads.number_passed {first : Char} {value : Number}
    (read : Reads (readNumber rules first) text value rest) :
    ∃ value, Reads (readNumber .passed first) text value rest := by
  have passed {negative : Bool} {text : List Char} (read : Reads (do
      (← readNumeral rules negative).value rules) text value rest) : ∃ value, Reads (do
      (← readNumeral .passed negative).value .passed) text value rest := by
    obtain ⟨numeral, _, taken, meant⟩ := reads_bind_iff.mp read
    obtain ⟨means, rfl⟩ := reads_value_iff.mp meant
    obtain ⟨value, means⟩ := means.passed
    exact ⟨value, reads_bind_iff.mpr
      ⟨numeral, rest, (agree_readNumeral negative _ _ _).mp taken, reads_value_iff.mpr ⟨means, rfl⟩⟩⟩
  unfold readNumber at read ⊢
  split at read
  · rw [if_pos ‹_›]
    exact passed read
  · rw [if_neg ‹_›]
    split at read
    · rw [if_pos ‹_›]
      rw [(reads_modify _ _).bind_iff] at read
      obtain ⟨value, read⟩ := passed read
      exact ⟨value, (reads_modify _ _).bind_iff.mpr read⟩
    · exact absurd read not_reads_throw

theorem QuotedText.passed {letters : List Char} (quoted : QuotedText rules letters piece) :
    ∃ letters, QuotedText .passed letters piece := by
  have alone (code : Nat) : Rules.passed.paired = true → isTrail code = false ∧ isLead code = false := nofun
  induction quoted with
  | nil => exact ⟨[], .nil⟩
  | plain mark slash visible _ ih =>
    obtain ⟨letters, later⟩ := ih
    exact ⟨_, .plain mark slash visible later⟩
  | escaped escape _ ih =>
    obtain ⟨letters, later⟩ := ih
    cases escape with
    | letter known => exact ⟨_, .escaped (.letter known) later⟩
    | unit written _ => exact ⟨_, .escaped (.unit written (alone _)) later⟩
    | pair _ first _ second _ =>
      have both := QuotedText.escaped (.unit first (alone _)) (.escaped (.unit second (alone _)) later)
      simp only [List.cons_append, List.append_assoc] at both ⊢
      exact ⟨_, both⟩

theorem ScalarText.passed {json : Json} (written : ScalarText rules json piece) : WellFormed piece := by
  refine ⟨0, ?_⟩
  cases written with
  | null => exact ⟨_, .null⟩
  | true => exact ⟨_, .true⟩
  | false => exact ⟨_, .false⟩
  | number written means =>
    obtain ⟨value, means⟩ := means.passed
    exact ⟨_, .number written means⟩
  | text quoted =>
    obtain ⟨letters, quoted⟩ := quoted.passed
    exact ⟨_, .text quoted⟩

/-! ## Values of fields -/

namespace Kind

/-- The value as JSON. -/
def json : (kind : Kind) → kind.Value → Json
  | .text, value => .text value
  | .count, value => .number (.integer value.toNat)

/-- The text writes the value. -/
def Writes (kind : Kind) (value : kind.Value) (piece : List Char) : Prop :=
  ScalarText .kept (kind.json value) piece

end Kind

/-- The step never succeeds. -/
def Refuses (scanner : Scanner α) : Prop := ∀ text value rest, ¬ Reads scanner text value rest

theorem refuses_throw (fault : Fault) : Refuses (throw fault : Scanner α) :=
  fun _ _ _ => not_reads_throw

theorem refuses_bind {scanner : Scanner α} {next : α → Scanner β} (later : ∀ value, Refuses (next value)) :
    Refuses (scanner >>= next) := by
  intro text value rest read
  obtain ⟨first, left, _, read⟩ := reads_bind_iff.mp read
  exact later first left value rest read

theorem refuses_reject (expected : Expected) : Refuses (reject expected : Scanner α) := by
  refine refuses_bind fun char => ?_
  dsimp only
  split
  iterate 3 exact refuses_bind fun _ => refuses_bind fun _ => refuses_throw _
  · exact refuses_bind fun _ => refuses_bind fun _ => refuses_throw _
  · exact refuses_bind fun _ => refuses_throw _
  · exact refuses_bind fun _ => refuses_throw _
  · exact refuses_bind fun _ => refuses_bind fun _ => refuses_throw _

theorem reads_readText_iff {value : String} : Reads readText text value rest ↔
    ∃ before inner, Blanks before ∧ QuotedText .kept value.toList inner ∧
      text = before ++ '"' :: (inner ++ '"' :: rest) := by
  unfold readText
  rw [(reads_skipBlank text).bind_iff, (reads_peek _).bind_iff]
  constructor
  · intro read
    split at read
    · rename_i begun
      obtain ⟨behind, dropped⟩ := List.head?_eq_some_iff.mp begun
      have taken : Reads (discard next) (text.dropWhile isBlank) () behind :=
        reads_discard_iff.mpr ⟨_, reads_next_iff.mpr dropped⟩
      obtain ⟨inner, quoted, rfl⟩ := reads_readQuoted_iff.mp (taken.bind_iff.mp read)
      obtain ⟨before, front, same⟩ := (dropWhile_eq_cons_iff (by decide)).mp dropped
      exact ⟨before, inner, front, quoted, same⟩
    · exact absurd read (refuses_reject _ _ _ _)
  · intro given
    obtain ⟨before, inner, front, quoted, same⟩ := given
    have dropped := (dropWhile_eq_cons_iff (by decide)).mpr ⟨before, front, same⟩
    rw [dropped, if_pos (by rfl)]
    refine reads_bind_iff.mpr ⟨(), _, reads_discard_iff.mpr ⟨_, reads_next_iff.mpr rfl⟩, ?_⟩
    exact reads_readQuoted_iff.mpr ⟨inner, quoted, rfl⟩

/-- What a kept number means, if it is a count. -/
theorem natural?_of_reads {first : Char} {value : Number}
    (read : Reads (readNumber .kept first) text value rest) {count : UInt64} :
    value.natural? = some count ↔ value = .integer count.toNat := by
  obtain ⟨numeral, _, _, found | ⟨_, bounded, _⟩, _⟩ := numeralText_of_reads read
  · have fits : value.natural? = some count ↔ Json.number value = .number (.integer count.toNat) :=
      Json.natural?_eq_some_iff (.number (Numeral.number?_fits found))
    rwa [Json.number.injEq] at fits
  · cases bounded

theorem reads_readCount_iff {count : UInt64} : Reads readCount text count rest ↔
    ∃ char behind, text.dropWhile isBlank = char :: behind ∧ (char = '-' ∨ char.isDigit = true) ∧
      Reads (readNumber .kept char) behind (.integer count.toNat) rest := by
  unfold readCount
  rw [(reads_skipBlank text).bind_iff, (reads_peek _).bind_iff]
  cases text.dropWhile isBlank with
  | nil => exact ⟨fun read => absurd read not_reads_throw, fun ⟨_, _, same, _⟩ => by cases same⟩
  | cons first behind =>
    dsimp only [List.head?_cons]
    constructor
    · intro read
      split at read
      · rename_i begins
        obtain ⟨_, _, same, read⟩ := reads_next_bind_iff.mp read
        cases same
        obtain ⟨value, _, read, found⟩ := reads_bind_iff.mp read
        split at found
        · rename_i same
          obtain ⟨rfl, rfl⟩ := reads_pure_iff.mp found
          rw [(natural?_of_reads read).mp same] at read
          exact ⟨first, behind, rfl, begins, read⟩
        · exact absurd found not_reads_throw
        · exact absurd found not_reads_throw
      · exact absurd read (refuses_reject _ _ _ _)
    · intro given
      obtain ⟨_, _, same, begins, read⟩ := given
      cases same
      rw [if_pos begins, reads_next_bind_iff]
      refine ⟨_, _, rfl, reads_bind_iff.mpr ⟨_, rest, read, ?_⟩⟩
      have found : (Number.integer count.toNat).natural? = some count := (natural?_of_reads read).mpr rfl
      split
      · rename_i same
        cases found.symm.trans same
        exact reads_pure _ _
      · exact absurd (found.symm.trans ‹_ = none›) nofun
      · exact absurd (found.symm.trans ‹_ = none›) nofun

/-- Passing over a value by its first character. -/
theorem reads_skip_of_behind {first : Char} {behind : List Char}
    (begun : text.dropWhile isBlank = first :: behind) (solid : isBlank first = false)
    (read : ∀ fuel levels, ∃ json, Reads (readBehind .passed fuel levels first) behind json rest) :
    Reads skip text () rest := by
  unfold skip
  obtain ⟨json, read⟩ := read (2 * text.length + 1) (2 * text.length + 2)
  refine (reads_steps _).bind_iff.mpr (reads_discard_iff.mpr ⟨json, ?_⟩)
  rw [← passesBlanks_readValue, begun]
  exact reads_readValue_cons solid read

namespace Kind

theorem sound (kind : Kind) : Sound kind.Writes kind.read := by
  intro text value rest read
  cases kind with
  | text =>
    obtain ⟨before, inner, front, quoted, rfl⟩ := reads_readText_iff.mp read
    refine ⟨before, '"' :: (inner ++ ['"']), front, ?_, by simp⟩
    have written := ScalarText.text quoted
    rwa [String.ofList_toList] at written
  | count =>
    obtain ⟨first, behind, begun, _, read⟩ := reads_readCount_iff.mp read
    obtain ⟨numeral, piece, written, means, same⟩ := numeralText_of_reads read
    obtain ⟨before, front, split⟩ := exists_blanks text
    exact ⟨before, piece, front, .number written means, by rw [split, begun, same]⟩

theorem Writes.reads {kind : Kind} {value : kind.Value} {before : List Char}
    (written : kind.Writes value piece) (front : Blanks before) (ended : Ended rest) :
    Reads kind.read (before ++ (piece ++ rest)) value rest := by
  cases kind with
  | text =>
    generalize same : Kind.json .text value = json at *
    unfold Writes at written
    rw [same] at written
    cases written with
    | text quoted =>
      cases same
      refine reads_readText_iff.mpr ⟨before, _, front, ?_, by simp; rfl⟩
      rwa [String.toList_ofList]
    | _ => cases same
  | count =>
    cases written with
    | number written means =>
      obtain ⟨first, others, rfl, begins⟩ := written.exists_cons
      refine reads_readCount_iff.mpr ⟨first, others ++ rest, ?_, begins,
        reads_readNumber written means ended rfl⟩
      exact (dropWhile_eq_cons_iff (not_blank_of_begins begins)).mpr ⟨before, front, rfl⟩

/-- What is read as the value of a field can be passed over. -/
theorem skip_of_read {kind : Kind} {value : kind.Value} (read : Reads kind.read text value rest) :
    Reads skip text () rest := by
  cases kind with
  | text =>
    obtain ⟨before, inner, front, quoted, same⟩ := reads_readText_iff.mp read
    obtain ⟨letters, quoted⟩ := quoted.passed
    refine reads_skip_of_behind ((dropWhile_eq_cons_iff (by decide)).mpr ⟨before, front, same⟩) (by decide)
      fun fuel levels => ⟨_, reads_bind_pure_iff.mpr ⟨String.ofList letters, ?_, rfl⟩⟩
    refine reads_readQuoted_iff.mpr ⟨inner, ?_, rfl⟩
    rwa [String.toList_ofList]
  | count =>
    obtain ⟨first, behind, begun, begins, read⟩ := reads_readCount_iff.mp read
    obtain ⟨value, read⟩ := read.number_passed
    refine reads_skip_of_behind begun (not_blank_of_begins begins) fun fuel levels => ?_
    rw [readBehind_of_begins begins]
    exact ⟨_, reads_bind_pure_iff.mpr ⟨value, read, rfl⟩⟩

/-- Where a value stands in a text, the value of a field is read if it is written there. -/
theorem reads_iff {kind : Kind} {value : kind.Value} {before : List Char} (written : WellFormed piece)
    (front : Blanks before) (ended : Ended rest) :
    Reads kind.read (before ++ (piece ++ rest)) value left ↔ kind.Writes value piece ∧ left = rest := by
  constructor
  · intro read
    have passed := (skip_of_read read).symm.trans (written.reads front ended)
    cases passed
    obtain ⟨blanks, found, blank, writes, same⟩ := kind.sound _ _ _ read
    -- Both pieces stand behind all the blanks, so that they are the same.
    have dropped := congrArg (List.dropWhile isBlank) same
    rw [written.opens.dropWhile front, writes.opens.dropWhile blank] at dropped
    rw [List.append_cancel_right dropped]
    exact ⟨writes, rfl⟩
  · intro given
    obtain ⟨writes, rfl⟩ := given
    exact writes.reads front ended

end Kind

end

end WalletTools.Json
