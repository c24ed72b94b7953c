import WalletTools.Proofs.Except
import WalletTools.Proofs.Json.Grammar

/-! Steps of reading as a relation between the text before, the value and the text behind. Each of those
that take blanks, marks or words succeeds exactly where they are in front. -/
namespace WalletTools.Json

/-- The step takes a piece off a text, gives a value and leaves the rest. -/
def Reads (scanner : Scanner α) (text : List Char) (value : α) (rest : List Char) : Prop :=
  scanner.run text = .ok (value, rest)

section

variable {rules : Rules} {text rest : List Char}

/-! ## Steps -/

theorem reads_pure (value : α) (text : List Char) : Reads (pure value) text value text := rfl

theorem reads_pure_iff {value other : α} :
    Reads (pure value) text other rest ↔ other = value ∧ rest = text := by
  constructor
  · intro read
    cases read
    exact ⟨rfl, rfl⟩
  · intro given
    obtain ⟨rfl, rfl⟩ := given
    exact reads_pure other rest

theorem not_reads_throw {fault : Fault} {value : α} : ¬ Reads (throw fault) text value rest := nofun

theorem reads_bind_iff {scanner : Scanner α} {next : α → Scanner β} {value : β} :
    Reads (scanner >>= next) text value rest ↔
      ∃ first left, Reads scanner text first left ∧ Reads (next first) left value rest := by
  unfold Reads
  rw [StateT.run_bind, bind_eq_ok_iff]
  exact Prod.exists

/-- A step that succeeds is done with. -/
theorem Reads.bind_iff {scanner : Scanner α} {next : α → Scanner β} {first : α} {value : β}
    {left : List Char} (read : Reads scanner text first left) :
    Reads (scanner >>= next) text value rest ↔ Reads (next first) left value rest := by
  rw [reads_bind_iff]
  constructor
  · intro success
    obtain ⟨_, _, again, later⟩ := success
    cases read.symm.trans again
    exact later
  · intro later
    exact ⟨first, left, read, later⟩

theorem reads_get (text : List Char) : Reads get text text text := rfl

theorem reads_set (state text : List Char) : Reads (set state) text () state := rfl

theorem reads_modify (change : List Char → List Char) (text : List Char) :
    Reads (modify change) text () (change text) := rfl

theorem reads_liftM_iff {outcome : Except Fault α} {value : α} :
    Reads (liftM outcome) text value rest ↔ outcome = .ok value ∧ rest = text := by
  change (outcome >>= fun value => .ok (value, text)) = .ok (value, rest) ↔ _
  rw [bind_eq_ok_iff]
  constructor
  · intro success
    obtain ⟨_, done, same⟩ := success
    cases same
    exact ⟨done, rfl⟩
  · intro given
    obtain ⟨done, rfl⟩ := given
    exact ⟨value, done, rfl⟩

theorem reads_bind_pure_iff {scanner : Scanner α} {change : α → β} {value : β} :
    Reads (scanner >>= fun first => pure (change first)) text value rest ↔
      ∃ first, Reads scanner text first rest ∧ value = change first := by
  rw [reads_bind_iff]
  constructor
  · intro success
    obtain ⟨first, _, read, done⟩ := success
    obtain ⟨rfl, rfl⟩ := reads_pure_iff.mp done
    exact ⟨first, read, rfl⟩
  · intro given
    obtain ⟨first, read, rfl⟩ := given
    exact ⟨first, rest, read, reads_pure _ _⟩

theorem reads_map_iff {scanner : Scanner α} {change : α → β} {value : β} :
    Reads (change <$> scanner) text value rest ↔
      ∃ first, Reads scanner text first rest ∧ value = change first := by
  rw [map_eq_pure_bind]
  exact reads_bind_pure_iff

theorem reads_discard_iff {scanner : Scanner α} {value : Unit} :
    Reads (discard scanner) text value rest ↔ ∃ first, Reads scanner text first rest := by
  change Reads ((fun _ => ()) <$> scanner) text value rest ↔ _
  rw [reads_map_iff]
  exact exists_congr fun _ => and_iff_left rfl

/-- A step that is taken only where nothing has to be refused before it. -/
theorem reads_unless_iff {bad : Prop} [Decidable bad] {fault : Fault} {later : Scanner α} {value : α} :
    Reads (if bad then throw fault else later) text value rest ↔
      ¬ bad ∧ Reads later text value rest := by
  by_cases refused : bad
  · rw [if_pos refused]
    exact ⟨fun read => absurd read not_reads_throw, fun given => absurd refused given.1⟩
  · rw [if_neg refused]
    exact (and_iff_right refused).symm

theorem reads_refuse_iff {bad : Prop} [Decidable bad] {fault : Fault} {next : Unit → Scanner α}
    {value : α} : Reads (if bad then (throw fault : Scanner Unit) >>= next else next ()) text value rest ↔
      ¬ bad ∧ Reads (next ()) text value rest := reads_unless_iff

/-! ## Blanks and marks -/

theorem blanks_nil : Blanks [] := nofun

theorem blanks_takeWhile (text : List Char) : Blanks (text.takeWhile isBlank) := by
  induction text with
  | nil => exact blanks_nil
  | cons char text ih =>
    by_cases blank : isBlank char = true
    · rw [List.takeWhile_cons_of_pos blank]
      exact List.forall_mem_cons.mpr ⟨blank, ih⟩
    · rw [List.takeWhile_cons_of_neg blank]
      exact blanks_nil

/-- Blanks in front of a text are dropped with its own. -/
theorem Blanks.dropWhile_append {blanks : List Char} (blank : Blanks blanks) (text : List Char) :
    (blanks ++ text).dropWhile isBlank = text.dropWhile isBlank :=
  List.dropWhile_append_of_pos blank

theorem exists_blanks (text : List Char) :
    ∃ before, Blanks before ∧ text = before ++ text.dropWhile isBlank :=
  ⟨text.takeWhile isBlank, blanks_takeWhile text, List.takeWhile_append_dropWhile.symm⟩

/-- What begins behind the blanks of a text. -/
theorem dropWhile_eq_cons_iff {char : Char} (solid : isBlank char = false) :
    text.dropWhile isBlank = char :: rest ↔ ∃ before, Blanks before ∧ text = before ++ char :: rest := by
  constructor
  · intro dropped
    obtain ⟨before, blank, same⟩ := exists_blanks text
    exact ⟨before, blank, dropped ▸ same⟩
  · intro given
    obtain ⟨before, blank, rfl⟩ := given
    rw [blank.dropWhile_append, List.dropWhile_cons_of_neg (by simp [solid])]

theorem reads_skipBlank (text : List Char) : Reads skipBlank text () (text.dropWhile isBlank) := rfl

theorem reads_peek (text : List Char) : Reads peek text text.head? text := rfl

theorem reads_next_iff {char : Char} : Reads next text char rest ↔ text = char :: rest := by
  unfold next
  rw [(reads_get text).bind_iff]
  cases text with
  | nil => exact ⟨fun read => absurd read not_reads_throw, nofun⟩
  | cons first text =>
    rw [(reads_set text _).bind_iff, reads_pure_iff, List.cons.injEq, eq_comm, @eq_comm _ rest]

theorem reads_next_bind_iff {next' : Char → Scanner α} {value : α} :
    Reads (next >>= next') text value rest ↔
      ∃ char left, text = char :: left ∧ Reads (next' char) left value rest := by
  rw [reads_bind_iff]
  exact exists_congr fun char => exists_congr fun left => and_congr_left' reads_next_iff

theorem reads_expect_iff {mark : Char} {value : Unit} (solid : isBlank mark = false) :
    Reads (expect mark) text value rest ↔ ∃ before, Blanks before ∧ text = before ++ mark :: rest := by
  rw [← dropWhile_eq_cons_iff solid]
  unfold expect
  rw [(reads_skipBlank text).bind_iff, reads_next_bind_iff]
  constructor
  · intro success
    obtain ⟨char, left, dropped, success⟩ := success
    obtain ⟨same, done⟩ := reads_unless_iff.mp success
    rw [dropped, not_ne_iff.mp same, (reads_pure_iff.mp done).2]
  · intro dropped
    exact ⟨mark, rest, dropped, reads_unless_iff.mpr ⟨not_not_intro rfl, reads_pure _ _⟩⟩

theorem reads_expect {mark : Char} {before : List Char} (solid : isBlank mark = false)
    (front : Blanks before) (rest : List Char) : Reads (expect mark) (before ++ mark :: rest) () rest :=
  (reads_expect_iff solid).mpr ⟨before, front, rfl⟩

theorem reads_expect_bind_iff {mark : Char} {next : Unit → Scanner α} {value : α}
    (solid : isBlank mark = false) : Reads (expect mark >>= next) text value rest ↔
      ∃ before left, Blanks before ∧ text = before ++ mark :: left ∧ Reads (next ()) left value rest := by
  rw [reads_bind_iff]
  constructor
  · intro success
    obtain ⟨_, left, marked, later⟩ := success
    obtain ⟨before, blank, same⟩ := (reads_expect_iff solid).mp marked
    exact ⟨before, left, blank, same, later⟩
  · intro given
    obtain ⟨before, left, blank, same, later⟩ := given
    exact ⟨(), left, (reads_expect_iff solid).mpr ⟨before, blank, same⟩, later⟩

theorem reads_expectWord_iff {word : List Char} {value : Unit} :
    Reads (expectWord word) text value rest ↔ text = word ++ rest := by
  induction word generalizing text with
  | nil => exact reads_pure_iff.trans ((and_iff_right rfl).trans eq_comm)
  | cons char word ih =>
    unfold expectWord
    rw [reads_next_bind_iff]
    constructor
    · intro success
      obtain ⟨_, _, rfl, success⟩ := success
      obtain ⟨same, later⟩ := reads_unless_iff.mp success
      rw [not_ne_iff.mp same, ih.mp later, List.cons_append]
    · intro same
      exact ⟨char, word ++ rest, same, reads_unless_iff.mpr ⟨not_not_intro rfl, ih.mpr rfl⟩⟩

/-- The mark behind an item of a list: a comma if another follows. -/
def separator (close : Char) (more : Bool) : Char := if more then ',' else close

theorem reads_continues_iff {close : Char} {more : Bool} (solid : isBlank close = false)
    (other : close ≠ ',') : Reads (continues close) text more rest ↔
      ∃ before, Blanks before ∧ text = before ++ separator close more :: rest := by
  have solid : isBlank (separator close more) = false := by
    cases more with
    | true => rfl
    | false => exact solid
  rw [← dropWhile_eq_cons_iff solid]
  unfold continues
  rw [(reads_skipBlank text).bind_iff, reads_next_bind_iff]
  constructor
  · intro success
    obtain ⟨char, left, dropped, success⟩ := success
    rw [dropped]
    by_cases closed : char = close
    · rw [if_pos closed] at success
      obtain ⟨rfl, rfl⟩ := reads_pure_iff.mp success
      rw [closed]
      rfl
    · rw [if_neg closed] at success
      by_cases comma : char = ','
      · rw [if_pos comma] at success
        obtain ⟨rfl, rfl⟩ := reads_pure_iff.mp success
        rw [comma]
        rfl
      · rw [if_neg comma] at success
        exact absurd success not_reads_throw
  · intro dropped
    refine ⟨_, rest, dropped, ?_⟩
    cases more with
    | true =>
      change Reads (if ',' = close then _ else if ',' = ',' then _ else _) _ _ _
      rw [if_neg other.symm, if_pos rfl]
      exact reads_pure _ _
    | false =>
      change Reads (if close = close then _ else _) _ _ _
      rw [if_pos rfl]
      exact reads_pure _ _

theorem reads_continues {close : Char} {before : List Char} (solid : isBlank close = false)
    (other : close ≠ ',') (front : Blanks before) (more : Bool) (rest : List Char) :
    Reads (continues close) (before ++ separator close more :: rest) more rest :=
  (reads_continues_iff solid other).mpr ⟨before, front, rfl⟩

/-- A list behind its first mark: either it is closed at once, or its items follow. -/
def closedOr (close : Char) (finished items : Scanner α) : Scanner α := do
  skipBlank
  if (← peek) = some close then
    discard next
    finished
  else items

theorem reads_closedOr_closed {close : Char} {finished items : Scanner α} {value : α}
    {between left : List Char} (solid : isBlank close = false) (blank : Blanks between) :
    Reads (closedOr close finished items) (between ++ close :: left) value rest ↔
      Reads finished left value rest := by
  have dropped : (between ++ close :: left).dropWhile isBlank = close :: left :=
    (dropWhile_eq_cons_iff solid).mpr ⟨between, blank, rfl⟩
  have taken : Reads (discard next) (close :: left) () left :=
    reads_discard_iff.mpr ⟨close, reads_next_iff.mpr rfl⟩
  unfold closedOr
  rw [(reads_skipBlank _).bind_iff, dropped, (reads_peek _).bind_iff, if_pos (by rfl), taken.bind_iff]

theorem reads_closedOr_open {close : Char} {finished items : Scanner α} {value : α}
    (unclosed : (text.dropWhile isBlank).head? ≠ some close) :
    Reads (closedOr close finished items) text value rest ↔
      Reads items (text.dropWhile isBlank) value rest := by
  unfold closedOr
  rw [(reads_skipBlank text).bind_iff, (reads_peek _).bind_iff, if_neg unclosed]

theorem reads_closedOr_iff {close : Char} {finished items : Scanner α} {value : α}
    (solid : isBlank close = false) : Reads (closedOr close finished items) text value rest ↔
      (∃ between left, Blanks between ∧ text = between ++ close :: left ∧
        Reads finished left value rest) ∨
      (text.dropWhile isBlank).head? ≠ some close ∧ Reads items (text.dropWhile isBlank) value rest := by
  by_cases closed : (text.dropWhile isBlank).head? = some close
  · rw [or_iff_left fun opened => opened.1 closed]
    obtain ⟨left, dropped⟩ := List.head?_eq_some_iff.mp closed
    obtain ⟨between, blank, rfl⟩ := (dropWhile_eq_cons_iff solid).mp dropped
    rw [reads_closedOr_closed solid blank]
    constructor
    · intro success
      exact ⟨between, left, blank, rfl, success⟩
    · intro given
      obtain ⟨between, other, blank, same, success⟩ := given
      have again := (dropWhile_eq_cons_iff solid).mpr ⟨between, blank, same⟩
      cases dropped.symm.trans again
      exact success
  · rw [reads_closedOr_open closed, or_iff_right, and_iff_right closed]
    intro given
    obtain ⟨between, left, blank, same, _⟩ := given
    exact closed (by rw [(dropWhile_eq_cons_iff solid).mpr ⟨between, blank, same⟩]; rfl)

end

end WalletTools.Json
