import WalletTools.Proofs.Json.Numerals
import WalletTools.Proofs.Json.Quoted

/-! Values as they are read: exactly the texts of the grammar, and each as the value that it writes. A
value that is passed over may be any that follows the grammar. -/
namespace WalletTools.Json

section

variable {rules : Rules} {text rest : List Char}

/-! ## The grammar -/

section

variable {writes other : α → List Char → Prop}

/-- What is written in one way within so many characters is written in another. -/
def Within (size : Nat) (writes other : α → List Char → Prop) : Prop :=
  ∀ value piece, piece.length ≤ size → writes value piece → other value piece

theorem Padded.within {size : Nat} (all : Within size writes other) :
    Within size (Padded writes) (Padded other) := by
  intro value piece small padded
  obtain ⟨front, written, back⟩ := padded
  simp only [List.length_append] at small
  exact .mk front (all _ _ (by omega) written) back

theorem MemberText.within {size : Nat} (all : Within size writes other) :
    Within size (MemberText rules writes) (MemberText rules other) := by
  intro member piece small written
  obtain ⟨front, quoted, between, written⟩ := written
  simp only [List.length_append, List.length_cons] at small
  exact .mk front quoted between (Padded.within all _ _ (by omega) written)

theorem ListText.within {size : Nat} {close : Char} (all : Within size writes other) :
    Within size (ListText writes close) (ListText other close) := by
  intro values piece small written
  induction written with
  | last item =>
    rw [List.length_append] at small
    exact .last (all _ _ (by omega) item)
  | more item _ ih =>
    rw [List.length_append, List.length_cons] at small
    exact .more (all _ _ (by omega) item) (ih (by omega))

theorem EnclosedText.within {size : Nat} {first close : Char} (all : Within size writes other) :
    Within (size + 1) (EnclosedText writes first close) (EnclosedText other first close) := by
  intro values piece small written
  cases written with
  | empty blank => exact .empty blank
  | filled items =>
    rw [List.length_cons] at small
    exact .filled (ListText.within all _ _ (by omega) items)

end

theorem ScalarText.value {json : Json} {piece : List Char} (written : ScalarText rules json piece)
    (levels : Nat) : ValueText rules levels json piece := by
  cases levels with
  | zero => exact written
  | succ levels => exact .inl written

theorem EnclosedText.length_pos {writes : α → List Char → Prop} {first close : Char} {values : List α}
    {piece : List Char} (written : EnclosedText writes first close values piece) : 0 < piece.length := by
  cases written <;> exact Nat.succ_pos _

/-- No value lies deeper than its text has characters. -/
theorem ValueText.shallow (levels : Nat) :
    ∀ size, Within size (ValueText rules levels) (ValueText rules size) := by
  induction levels with
  | zero => exact fun size json piece _ written => ScalarText.value written size
  | succ levels ih =>
    intro size json piece small written
    rcases written with scalar | compound
    · exact scalar.value size
    · cases size with
      | zero =>
        cases compound with
        | array written => exact absurd written.length_pos (by omega)
        | object written => exact absurd written.length_pos (by omega)
      | succ size =>
        right
        cases compound with
        | array written =>
          exact .array (EnclosedText.within (Padded.within (ih size)) _ _ small written)
        | object written =>
          exact .object (EnclosedText.within (MemberText.within (ih size)) _ _ small written)

/-! ## Values by their first character -/

theorem reads_steps (text : List Char) : Reads steps text (2 * text.length + 2) text := rfl

/-- A value is told by its first character. -/
def readBehind (rules : Rules) (fuel levels : Nat) : Char → Scanner Json
  | 'n' => do expectWord ['u', 'l', 'l']; return .null
  | 't' => do expectWord ['r', 'u', 'e']; return .boolean true
  | 'f' => do expectWord ['a', 'l', 's', 'e']; return .boolean false
  | '"' => return .text (← readQuoted rules)
  | '[' =>
    match levels with
    | 0 => throw .malformed
    | levels + 1 => do
      skipBlank
      if (← peek) = some ']' then discard next; return .array []
      return .array (← readElements rules fuel levels)
  | '{' =>
    match levels with
    | 0 => throw .malformed
    | levels + 1 => do
      skipBlank
      if (← peek) = some '}' then discard next; return .object []
      return .object (← readMembers rules fuel levels)
  | char => return .number (← readNumber rules char)

/-- What begins like a number is read as one. -/
theorem readBehind_of_begins {first : Char} (begins : first = '-' ∨ first.isDigit = true)
    (fuel levels : Nat) :
    readBehind rules fuel levels first = do return .number (← readNumber rules first) := by
  unfold readBehind
  split
  iterate 6 exact absurd begins (by decide)
  rfl

theorem not_blank_of_begins {first : Char} (begins : first = '-' ∨ first.isDigit = true) :
    isBlank first = false := by
  refine Bool.eq_false_iff.mpr fun blank => ?_
  simp only [isBlank, decide_eq_true_eq] at blank
  rcases blank with rfl | rfl | rfl | rfl <;> exact absurd begins (by decide)

theorem readValue_succ (fuel levels : Nat) :
    readValue rules (fuel + 1) levels = (do skipBlank; readBehind rules fuel levels (← next)) := by
  unfold readValue
  rfl

theorem reads_readValue_cons {fuel levels : Nat} {char : Char} {json : Json}
    (solid : isBlank char = false) (read : Reads (readBehind rules fuel levels char) text json rest) :
    Reads (readValue rules (fuel + 1) levels) (char :: text) json rest := by
  rw [readValue_succ, (reads_skipBlank _).bind_iff, List.dropWhile_cons_of_neg (by simp [solid]),
    reads_next_bind_iff]
  exact ⟨char, text, rfl, read⟩

/-! ## Blanks in front -/

/-- The step does not see blanks in front of a text. -/
def PassesBlanks (scanner : Scanner α) : Prop :=
  ∀ text value rest, Reads scanner (text.dropWhile isBlank) value rest ↔ Reads scanner text value rest

theorem passesBlanks_throw (fault : Fault) : PassesBlanks (throw fault : Scanner α) :=
  fun _ _ _ => ⟨fun read => absurd read not_reads_throw, fun read => absurd read not_reads_throw⟩

theorem passesBlanks_skipBlank : PassesBlanks skipBlank := by
  intro text value rest
  obtain ⟨before, blank, same⟩ := exists_blanks text
  have again : text.dropWhile isBlank = (text.dropWhile isBlank).dropWhile isBlank := by
    conv_lhs => rw [same, blank.dropWhile_append]
  unfold Reads skipBlank
  change Except.ok ((), (text.dropWhile isBlank).dropWhile isBlank) = _ ↔ _
  rw [← again]
  rfl

theorem PassesBlanks.bind {scanner : Scanner α} (passes : PassesBlanks scanner)
    (next : α → Scanner β) : PassesBlanks (scanner >>= next) := by
  intro text value rest
  rw [reads_bind_iff, reads_bind_iff]
  exact exists_congr fun _ => exists_congr fun _ => and_congr_left' (passes _ _ _)

theorem passesBlanks_expect (mark : Char) : PassesBlanks (expect mark) := passesBlanks_skipBlank.bind _

theorem passesBlanks_readValue (fuel levels : Nat) : PassesBlanks (readValue rules fuel levels) := by
  cases fuel with
  | zero =>
    unfold readValue
    exact passesBlanks_throw _
  | succ fuel =>
    unfold readValue
    exact passesBlanks_skipBlank.bind _

theorem passesBlanks_readElements (fuel levels : Nat) :
    PassesBlanks (readElements rules fuel levels) := by
  cases fuel with
  | zero =>
    unfold readElements
    exact passesBlanks_throw _
  | succ fuel =>
    unfold readElements
    exact (passesBlanks_readValue fuel levels).bind _

theorem passesBlanks_readMembers (fuel levels : Nat) : PassesBlanks (readMembers rules fuel levels) := by
  cases fuel with
  | zero =>
    unfold readMembers
    exact passesBlanks_throw _
  | succ fuel =>
    unfold readMembers
    exact (passesBlanks_expect _).bind _

theorem Blanks.reads_iff {before : List Char} {scanner : Scanner α} {value : α} (blank : Blanks before)
    (passes : PassesBlanks scanner) :
    Reads scanner (before ++ text) value rest ↔ Reads scanner text value rest := by
  rw [← passes (before ++ text), blank.dropWhile_append, passes]

/-! ## Lists -/

/-- An item of a list, and what is done behind a comma or behind the mark that closes the list. -/
theorem reads_item_iff {close : Char} {item : Scanner α} {more last : α → Scanner β} {value : β}
    (solid : isBlank close = false) (other : close ≠ ',') :
    Reads (do
      let first ← item
      if ← continues close then more first else last first) text value rest ↔
    ∃ first left before behind, Reads item text first left ∧ Blanks before ∧
      (left = before ++ ',' :: behind ∧ Reads (more first) behind value rest ∨
        left = before ++ close :: behind ∧ Reads (last first) behind value rest) := by
  rw [reads_bind_iff]
  refine exists_congr fun first => exists_congr fun left => ?_
  rw [reads_bind_iff]
  constructor
  · intro success
    obtain ⟨read, again, behind, mark, later⟩ := success
    obtain ⟨before, blank, same⟩ := (reads_continues_iff solid other).mp mark
    refine ⟨before, behind, read, blank, ?_⟩
    cases again with
    | true => exact .inl ⟨same, later⟩
    | false => exact .inr ⟨same, later⟩
  · intro given
    obtain ⟨before, behind, read, blank, ⟨same, later⟩ | ⟨same, later⟩⟩ := given
    · exact ⟨read, true, behind, (reads_continues_iff solid other).mpr ⟨before, blank, same⟩, later⟩
    · exact ⟨read, false, behind, (reads_continues_iff solid other).mpr ⟨before, blank, same⟩, later⟩

theorem readElements_succ (fuel levels : Nat) : readElements rules (fuel + 1) levels = (do
    let element ← readValue rules fuel levels
    if ← continues ']' then return element :: (← readElements rules fuel levels) else return [element]) := by
  conv_lhs => unfold readElements

/-- One member, as it stands among others. -/
def readMember (rules : Rules) (fuel levels : Nat) : Scanner (String × Json) := do
  expect '"'
  let name ← readQuoted rules
  expect ':'
  return (name, ← readValue rules fuel levels)

theorem readMembers_succ (fuel levels : Nat) : readMembers rules (fuel + 1) levels = (do
    let member ← readMember rules fuel levels
    if ← continues '}' then return member :: (← readMembers rules fuel levels) else return [member]) := by
  rw [readMembers]
  simp only [readMember, bind_assoc, pure_bind]

/-! ## What is read is written -/

/-- Whatever the step reads is written in front of the text, behind blanks. -/
def Sound (writes : α → List Char → Prop) (scanner : Scanner α) : Prop :=
  ∀ text value rest, Reads scanner text value rest →
    ∃ before piece, Blanks before ∧ writes value piece ∧ text = before ++ (piece ++ rest)

/-- Whatever the step reads is written up to the mark that follows, with the blanks before the mark. -/
def SoundItem (writes : α → List Char → Prop) (scanner : Scanner α) : Prop :=
  ∀ text value behind rest, Blanks behind → Reads scanner text value (behind ++ rest) →
    ∃ piece, writes value piece ∧ text = piece ++ rest

/-- Whatever the step reads is written as a list in front of the text. -/
def SoundList (writes : α → List Char → Prop) (close : Char) (scanner : Scanner (List α)) : Prop :=
  ∀ text values rest, Reads scanner text values rest →
    ∃ piece, ListText writes close values piece ∧ text = piece ++ rest

theorem Sound.padded {writes : α → List Char → Prop} {scanner : Scanner α}
    (sound : Sound writes scanner) : SoundItem (Padded writes) scanner := by
  intro text value behind rest back read
  obtain ⟨before, piece, front, written, rfl⟩ := sound _ _ _ read
  exact ⟨_, .mk front written back, by simp⟩

theorem Sound.member {writes : Json → List Char → Prop} {fuel levels : Nat}
    (sound : Sound writes (readValue rules fuel levels)) :
    SoundItem (MemberText rules writes) (readMember rules fuel levels) := by
  intro text member behind rest back read
  unfold readMember at read
  rw [reads_expect_bind_iff (by decide)] at read
  obtain ⟨before, _, front, rfl, named⟩ := read
  obtain ⟨name, inner, _, quoted, rfl, colon⟩ := reads_readQuoted_bind_iff.mp named
  obtain ⟨gap, _, between, rfl, valued⟩ := (reads_expect_bind_iff (by decide)).mp colon
  obtain ⟨value, given, rfl⟩ := reads_bind_pure_iff.mp valued
  obtain ⟨piece, written, rfl⟩ := sound.padded _ _ _ _ back given
  exact ⟨_, .mk front quoted between written, by simp⟩

theorem SoundItem.list {writes : α → List Char → Prop} {close : Char} {item : Scanner α}
    {items : Scanner (List α)} (solid : isBlank close = false) (other : close ≠ ',')
    (first : SoundItem writes item) (later : SoundList writes close items) :
    SoundList writes close (do
      let value ← item
      if ← continues close then return value :: (← items) else return [value]) := by
  intro text values rest read
  obtain ⟨value, _, before, behind, taken, blank, continued⟩ := (reads_item_iff solid other).mp read
  rcases continued with ⟨rfl, more⟩ | ⟨rfl, last⟩
  · obtain ⟨others, listed, rfl⟩ := reads_bind_pure_iff.mp more
    obtain ⟨piece, written, rfl⟩ := first _ _ _ _ blank taken
    obtain ⟨back, behind, rfl⟩ := later _ _ _ listed
    exact ⟨_, .more written behind, by simp⟩
  · obtain ⟨rfl, rfl⟩ := reads_pure_iff.mp last
    obtain ⟨piece, written, rfl⟩ := first _ _ _ _ blank taken
    exact ⟨_, .last written, by simp⟩

/-- A list behind its first mark. -/
theorem SoundList.enclosed {writes : α → List Char → Prop} {close : Char} {items : Scanner (List α)}
    (solid : isBlank close = false) (sound : SoundList writes close items) (passes : PassesBlanks items)
    {build : List α → Json} {json : Json} (read : Reads
      (closedOr close (return build []) (do return build (← items))) text json rest) (first : Char) :
    ∃ values piece, EnclosedText writes first close values piece ∧ json = build values ∧
      first :: text = piece ++ rest := by
  rcases (reads_closedOr_iff solid).mp read with ⟨between, left, blank, rfl, done⟩ | ⟨_, filled⟩
  · obtain ⟨rfl, rfl⟩ := reads_pure_iff.mp done
    exact ⟨[], _, .empty blank, rfl, by simp⟩
  · obtain ⟨values, listed, rfl⟩ := reads_bind_pure_iff.mp filled
    obtain ⟨body, written, rfl⟩ := sound _ _ _ ((passes _ _ _).mp listed)
    exact ⟨values, _, .filled written, rfl, rfl⟩

theorem sound_read (fuel levels : Nat) :
    Sound (ValueText rules levels) (readValue rules fuel levels) ∧
    SoundList (Padded (ValueText rules levels)) ']' (readElements rules fuel levels) ∧
    SoundList (MemberText rules (ValueText rules levels)) '}' (readMembers rules fuel levels) := by
  -- The three readers call each other with less fuel, so that one induction carries all three.
  induction fuel generalizing levels with
  | zero =>
    unfold readValue readElements readMembers
    exact ⟨fun _ _ _ read => absurd read not_reads_throw, fun _ _ _ read => absurd read not_reads_throw,
      fun _ _ _ read => absurd read not_reads_throw⟩
  | succ fuel ih =>
    refine ⟨?value, ?elements, ?members⟩
    case value =>
      intro text json rest read
      rw [readValue_succ, (reads_skipBlank text).bind_iff, reads_next_bind_iff] at read
      obtain ⟨char, left, begun, read⟩ := read
      obtain ⟨before, blank, same⟩ := exists_blanks text
      suffices written : ∃ piece, ValueText rules levels json piece ∧ char :: left = piece ++ rest by
        obtain ⟨piece, written, same'⟩ := written
        exact ⟨before, piece, blank, written, by rw [same, begun, same']⟩
      unfold readBehind at read
      split at read
      · obtain ⟨_, word, rfl⟩ := reads_bind_pure_iff.mp read
        exact ⟨_, ScalarText.value .null levels, by rw [reads_expectWord_iff.mp word]; rfl⟩
      · obtain ⟨_, word, rfl⟩ := reads_bind_pure_iff.mp read
        exact ⟨_, ScalarText.value .true levels, by rw [reads_expectWord_iff.mp word]; rfl⟩
      · obtain ⟨_, word, rfl⟩ := reads_bind_pure_iff.mp read
        exact ⟨_, ScalarText.value .false levels, by rw [reads_expectWord_iff.mp word]; rfl⟩
      · obtain ⟨value, found, rfl⟩ := reads_bind_pure_iff.mp read
        obtain ⟨inner, quoted, rfl⟩ := reads_readQuoted_iff.mp found
        rw [← String.ofList_toList (s := value)]
        exact ⟨_, ScalarText.value (.text quoted) levels, by simp⟩
      · split at read
        · exact absurd read not_reads_throw
        · rename_i levels
          obtain ⟨elements, piece, written, rfl, same⟩ :=
            (ih levels).2.1.enclosed (by decide) (passesBlanks_readElements fuel levels) read '['
          exact ⟨piece, .inr (.array written), same⟩
      · split at read
        · exact absurd read not_reads_throw
        · rename_i levels
          obtain ⟨members, piece, written, rfl, same⟩ :=
            (ih levels).2.2.enclosed (by decide) (passesBlanks_readMembers fuel levels) read '{'
          exact ⟨piece, .inr (.object written), same⟩
      · obtain ⟨value, found, rfl⟩ := reads_bind_pure_iff.mp read
        obtain ⟨numeral, piece, written, means, same⟩ := numeralText_of_reads found
        exact ⟨piece, ScalarText.value (.number written means) levels, same⟩
    case elements =>
      rw [readElements_succ]
      exact SoundItem.list (by decide) (by decide) (ih levels).1.padded (ih levels).2.1
    case members =>
      rw [readMembers_succ]
      exact SoundItem.list (by decide) (by decide) (ih levels).1.member (ih levels).2.2

/-! ## What is written is read -/

/-- Whatever is written is read behind blanks, where the text of a number ends. So many steps are
enough for a text of half that many characters. -/
def Complete (writes : α → List Char → Prop) (scanner : (fuel : Nat) → Scanner α) : Prop :=
  ∀ value piece before rest fuel, writes value piece → Blanks before → Ended rest →
    2 * piece.length ≤ fuel → Reads (scanner fuel) (before ++ (piece ++ rest)) value rest

/-- Whatever is written is read up to the blanks before the mark that follows. -/
def CompleteItem (writes : α → List Char → Prop) (close : Char) (scanner : (fuel : Nat) → Scanner α) :
    Prop :=
  ∀ value piece mark rest fuel, writes value piece → mark = ',' ∨ mark = close →
    2 * piece.length ≤ fuel → ∃ behind, Blanks behind ∧
      Reads (scanner fuel) (piece ++ mark :: rest) value (behind ++ mark :: rest)

theorem Ended.blanks {behind : List Char} (blank : Blanks behind) (ended : Ended rest) :
    Ended (behind ++ rest) := by
  cases behind with
  | nil => exact ended
  | cons char behind =>
    have blank := blank char List.mem_cons_self
    have other {mark : Char} (solid : isBlank mark = false) :
        (char :: behind ++ rest).head? ≠ some mark := by
      rintro same
      cases same
      exact absurd blank (by simp [solid])
    refine ⟨fun digit first => ?_, other (by decide), other (by decide), other (by decide)⟩
    cases first
    simp only [isBlank, decide_eq_true_eq] at blank
    rcases blank with rfl | rfl | rfl | rfl <;> decide

theorem ended_cons {mark : Char} (mark_mem : mark ∈ [',', ']', '}']) : Ended (mark :: rest) := by
  simp only [List.mem_cons, List.not_mem_nil, or_false] at mark_mem
  rcases mark_mem with rfl | rfl | rfl <;>
    exact ⟨fun _ first => by cases first; decide, by simp, by simp, by simp⟩

theorem Complete.padded {writes : α → List Char → Prop} {scanner : Nat → Scanner α} {close : Char}
    (complete : Complete writes scanner) (closing : close ∈ [']', '}']) :
    CompleteItem (Padded writes) close scanner := by
  intro value piece mark rest fuel padded marked enough
  obtain ⟨front, written, back⟩ := padded
  simp only [List.length_append] at enough
  have ended : Ended (mark :: rest) := ended_cons (by
    rcases marked with rfl | rfl
    · exact List.mem_cons_self
    · exact List.mem_cons_of_mem _ closing)
  refine ⟨_, back, ?_⟩
  simp only [List.append_assoc]
  exact complete _ _ _ _ _ written front (ended.blanks back) (by omega)

theorem Complete.member {writes : Json → List Char → Prop} {levels : Nat}
    (complete : Complete writes fun fuel => readValue rules fuel levels) :
    CompleteItem (MemberText rules writes) '}' fun fuel => readMember rules fuel levels := by
  intro member piece mark rest fuel written marked enough
  obtain ⟨front, quoted, between, written⟩ := written
  simp only [List.length_append, List.length_cons] at enough
  obtain ⟨behind, back, read⟩ := complete.padded (by decide) _ _ mark rest fuel written marked (by omega)
  refine ⟨behind, back, ?_⟩
  unfold readMember
  refine (reads_expect_bind_iff (by decide)).mpr ⟨_, _, front, by simp; rfl, ?_⟩
  refine reads_readQuoted_bind_iff.mpr ⟨_, _, _, quoted, rfl, ?_⟩
  refine (reads_expect_bind_iff (by decide)).mpr ⟨_, _, between, rfl, ?_⟩
  exact reads_bind_pure_iff.mpr ⟨_, read, rfl⟩

theorem CompleteItem.list {writes : α → List Char → Prop} {close : Char} {item : Nat → Scanner α}
    (items : Nat → Scanner (List α)) (solid : isBlank close = false) (other : close ≠ ',')
    (complete : CompleteItem writes close item) (step : ∀ fuel, items (fuel + 1) = (do
      let value ← item fuel
      if ← continues close then return value :: (← items fuel) else return [value]))
    {values : List α} {piece : List Char} (written : ListText writes close values piece) :
    ∀ rest fuel, 2 * piece.length ≤ fuel → Reads (items fuel) (piece ++ rest) values rest := by
  induction written with
  | last written =>
    intro rest fuel enough
    rw [List.length_append, List.length_singleton] at enough
    obtain ⟨fuel, rfl⟩ := Nat.exists_eq_add_one_of_ne_zero (show fuel ≠ 0 by omega)
    obtain ⟨behind, blank, read⟩ := complete _ _ close rest fuel written (.inr rfl) (by omega)
    rw [step, List.append_assoc]
    exact (reads_item_iff solid other).mpr
      ⟨_, _, _, _, read, blank, .inr ⟨rfl, reads_pure _ _⟩⟩
  | more written _ ih =>
    intro rest fuel enough
    rw [List.length_append, List.length_cons] at enough
    obtain ⟨fuel, rfl⟩ := Nat.exists_eq_add_one_of_ne_zero (show fuel ≠ 0 by omega)
    obtain ⟨behind, blank, read⟩ := complete _ _ ',' _ fuel written (.inl rfl) (by omega)
    rw [step, List.append_assoc, List.cons_append]
    exact (reads_item_iff solid other).mpr ⟨_, _, _, _, read, blank,
      .inl ⟨rfl, reads_bind_pure_iff.mpr ⟨_, ih rest fuel (by omega), rfl⟩⟩⟩

/-- The text begins with a character that is neither a blank nor the end of an array. -/
def Opens (piece : List Char) : Prop :=
  ∃ first others, piece = first :: others ∧ isBlank first = false ∧ first ≠ ']'

theorem ScalarText.opens {json : Json} {piece : List Char} (written : ScalarText rules json piece) :
    Opens piece := by
  cases written with
  | null => exact ⟨_, _, rfl, by decide, by decide⟩
  | true => exact ⟨_, _, rfl, by decide, by decide⟩
  | false => exact ⟨_, _, rfl, by decide, by decide⟩
  | text quoted => exact ⟨_, _, rfl, by decide, by decide⟩
  | number written _ =>
    obtain ⟨first, others, rfl, begins⟩ := written.exists_cons
    refine ⟨first, others, rfl, not_blank_of_begins begins, ?_⟩
    rintro rfl
    exact absurd begins (by decide)

theorem ScalarText.length_pos {json : Json} {piece : List Char}
    (written : ScalarText rules json piece) : 0 < piece.length := by
  obtain ⟨_, _, rfl, _⟩ := written.opens
  exact Nat.succ_pos _

theorem ValueText.opens {levels : Nat} {json : Json} {piece : List Char}
    (written : ValueText rules levels json piece) : Opens piece := by
  cases levels with
  | zero => exact ScalarText.opens written
  | succ levels =>
    rcases written with scalar | compound
    · exact scalar.opens
    · rcases compound with ⟨⟨_⟩ | ⟨_⟩⟩ | ⟨⟨_⟩ | ⟨_⟩⟩ <;> exact ⟨_, _, rfl, by decide, by decide⟩

theorem WellFormed.opens {piece : List Char} (written : WellFormed piece) : Opens piece := by
  obtain ⟨_, _, written⟩ := written
  exact written.opens

theorem Opens.dropWhile {before piece : List Char} (opens : Opens piece) (front : Blanks before) :
    (before ++ (piece ++ rest)).dropWhile isBlank = piece ++ rest := by
  obtain ⟨first, others, rfl, solid, _⟩ := opens
  exact (dropWhile_eq_cons_iff solid).mpr ⟨before, front, rfl⟩

/-- A list does not begin with its end. -/
def Unclosed (writes : α → List Char → Prop) (close : Char) : Prop :=
  ∀ value piece rest, writes value piece → ((piece ++ rest).dropWhile isBlank).head? ≠ some close

theorem Unclosed.list {writes : α → List Char → Prop} {close : Char} (unclosed : Unclosed writes close) :
    Unclosed (ListText writes close) close := by
  intro values piece rest written
  cases written with
  | last written =>
    rw [List.append_assoc]
    exact unclosed _ _ _ written
  | more written _ =>
    rw [List.append_assoc]
    exact unclosed _ _ _ written

theorem unclosed_padded (levels : Nat) : Unclosed (Padded (ValueText rules levels)) ']' := by
  intro value piece rest padded
  obtain ⟨front, written, back⟩ := padded
  obtain ⟨first, others, rfl, _, other⟩ := written.opens
  rw [List.append_assoc, List.append_assoc, written.opens.dropWhile front]
  simpa using other

theorem unclosed_member (writes : α → List Char → Prop) : Unclosed (MemberText rules writes) '}' := by
  intro member piece rest written
  obtain ⟨front, _, _, _⟩ := written
  rw [List.append_assoc, front.dropWhile_append]
  simp [isBlank]

theorem EnclosedText.reads {writes : α → List Char → Prop} {first close : Char} {values : List α}
    {piece : List Char} {items : Scanner (List α)} {build : List α → Json}
    (written : EnclosedText writes first close values piece) (solid : isBlank close = false)
    (unclosed : Unclosed writes close) (passes : PassesBlanks items)
    (listed : ∀ body, ListText writes close values body → piece = first :: body →
      Reads items (body ++ rest) values rest) :
    ∃ body, piece = first :: body ∧ Reads
      (closedOr close (return build []) (do return build (← items))) (body ++ rest) (build values) rest := by
  cases written with
  | empty blank =>
    refine ⟨_, rfl, ?_⟩
    rw [List.append_assoc, List.singleton_append, reads_closedOr_closed solid blank]
    exact reads_pure _ _
  | filled items =>
    refine ⟨_, rfl, (reads_closedOr_open (unclosed.list _ _ rest items)).mpr ?_⟩
    exact reads_bind_pure_iff.mpr ⟨_, (passes _ _ _).mpr (listed _ items rfl), rfl⟩

/-- A value without parts is read at any level. -/
theorem ScalarText.reads {json : Json} {piece : List Char} (written : ScalarText rules json piece)
    (ended : Ended rest) (fuel levels : Nat) :
    Reads (readValue rules (fuel + 1) levels) (piece ++ rest) json rest := by
  cases written with
  | null =>
    exact reads_readValue_cons (by decide) (reads_bind_pure_iff.mpr
      ⟨(), reads_expectWord_iff.mpr rfl, rfl⟩)
  | true =>
    exact reads_readValue_cons (by decide) (reads_bind_pure_iff.mpr
      ⟨(), reads_expectWord_iff.mpr rfl, rfl⟩)
  | false =>
    exact reads_readValue_cons (by decide) (reads_bind_pure_iff.mpr
      ⟨(), reads_expectWord_iff.mpr rfl, rfl⟩)
  | text quoted =>
    rename_i letters inner
    have spelled : QuotedText rules (String.ofList letters).toList inner := by
      rwa [String.toList_ofList]
    exact reads_readValue_cons (by decide) (reads_bind_pure_iff.mpr
      ⟨_, reads_readQuoted_iff.mpr ⟨inner, spelled, by simp⟩, rfl⟩)
  | number written means =>
    obtain ⟨_, _, same, solid, _⟩ := ScalarText.opens (.number written means)
    obtain ⟨first, others, rfl, begins⟩ := written.exists_cons
    cases same
    refine reads_readValue_cons solid ?_
    rw [readBehind_of_begins begins]
    exact reads_bind_pure_iff.mpr ⟨_, reads_readNumber written means ended rfl, rfl⟩

theorem complete_readValue (levels : Nat) :
    Complete (ValueText rules levels) fun fuel => readValue rules fuel levels := by
  induction levels with
  | zero =>
    intro json piece before rest fuel written blank ended enough
    have some := ScalarText.length_pos written
    obtain ⟨fuel, rfl⟩ := Nat.exists_eq_add_one_of_ne_zero (show fuel ≠ 0 by omega)
    exact (blank.reads_iff (passesBlanks_readValue _ _)).mpr (ScalarText.reads written ended fuel 0)
  | succ levels ih =>
    intro json piece before rest fuel written blank ended enough
    refine (blank.reads_iff (passesBlanks_readValue _ _)).mpr ?_
    rcases written with scalar | ⟨written⟩ | ⟨written⟩
    · have some := scalar.length_pos
      obtain ⟨fuel, rfl⟩ := Nat.exists_eq_add_one_of_ne_zero (show fuel ≠ 0 by omega)
      exact scalar.reads ended fuel _
    · rename_i elements
      have some := written.length_pos
      obtain ⟨fuel, rfl⟩ := Nat.exists_eq_add_one_of_ne_zero (show fuel ≠ 0 by omega)
      have listed (body : List Char)
          (items : ListText (Padded (ValueText rules levels)) ']' elements body)
          (same : piece = '[' :: body) : Reads (readElements rules fuel levels) (body ++ rest) elements rest :=
        (ih.padded (by decide)).list (readElements rules · levels) (by decide) (by decide)
          (readElements_succ · levels) items rest fuel
          (by rw [same, List.length_cons] at enough; omega)
      obtain ⟨body, rfl, read⟩ := written.reads (by decide) (unclosed_padded levels)
        (passesBlanks_readElements fuel levels) listed
      exact reads_readValue_cons (by decide) read
    · rename_i members
      have some := written.length_pos
      obtain ⟨fuel, rfl⟩ := Nat.exists_eq_add_one_of_ne_zero (show fuel ≠ 0 by omega)
      have listed (body : List Char)
          (items : ListText (MemberText rules (ValueText rules levels)) '}' members body)
          (same : piece = '{' :: body) : Reads (readMembers rules fuel levels) (body ++ rest) members rest :=
        ih.member.list (readMembers rules · levels) (by decide) (by decide) (readMembers_succ · levels)
          items rest fuel
          (by rw [same, List.length_cons] at enough; omega)
      obtain ⟨body, rfl, read⟩ := written.reads (by decide) (unclosed_member _)
        (passesBlanks_readMembers fuel levels) listed
      exact reads_readValue_cons (by decide) read

/-! ## Whole texts -/

theorem dropWhile_eq_nil_iff : text.dropWhile isBlank = [] ↔ Blanks text := by
  constructor
  · intro dropped
    obtain ⟨before, blank, same⟩ := exists_blanks text
    rw [same, dropped, List.append_nil]
    exact blank
  · intro blank
    have dropped := blank.dropWhile_append []
    rwa [List.append_nil] at dropped

/-- A text is read whole where only blanks are left of it. -/
theorem whole_eq_ok_iff {scanner : Scanner α} {text : String} {value : α} :
    scanner.whole text = .ok value ↔ ∃ rest, Reads scanner text.toList value rest ∧ Blanks rest := by
  unfold Scanner.whole
  rw [bind_eq_ok_iff]
  constructor
  · intro success
    obtain ⟨⟨_, rest⟩, read, done⟩ := success
    dsimp only at done
    split at done
    · cases done
      exact ⟨rest, read, dropWhile_eq_nil_iff.mp ‹_›⟩
    · cases done
  · intro given
    obtain ⟨rest, read, blank⟩ := given
    refine ⟨(value, rest), read, ?_⟩
    dsimp only
    rw [if_pos (dropWhile_eq_nil_iff.mpr blank)]
    rfl

theorem ended_nil : Ended [] := ⟨nofun, nofun, nofun, nofun⟩

theorem Blanks.ended {blanks : List Char} (blank : Blanks blanks) : Ended blanks := by
  have ended := ended_nil.blanks blank
  rwa [List.append_nil] at ended

/-- A text is read as a value if it writes it. -/
theorem parse_eq_ok_iff {text : String} {json : Json} :
    parse text = .ok json ↔ Padded (ValueText .kept deepest) json text.toList := by
  unfold parse Json.read
  rw [whole_eq_ok_iff]
  constructor
  · intro success
    obtain ⟨rest, read, blank⟩ := success
    have read := (reads_steps _).bind_iff.mp read
    obtain ⟨before, piece, front, written, same⟩ := (sound_read _ _).1 _ _ _ read
    rw [same]
    exact .mk front written blank
  · intro padded
    generalize text.toList = letters at padded ⊢
    obtain ⟨front, written, back⟩ := padded
    refine ⟨_, (reads_steps _).bind_iff.mpr ?_, back⟩
    exact complete_readValue _ _ _ _ _ _ written front back.ended (by
      simp only [List.length_append]
      omega)

/-- Passing over a value takes any text that follows the grammar. -/
theorem sound_skip : Sound (fun _ => WellFormed) skip := by
  intro text value rest read
  unfold skip at read
  obtain ⟨json, read⟩ := reads_discard_iff.mp ((reads_steps _).bind_iff.mp read)
  obtain ⟨before, piece, front, written, same⟩ := (sound_read _ _).1 _ _ _ read
  exact ⟨before, piece, front, ⟨_, json, written⟩, same⟩

theorem WellFormed.reads {piece before : List Char} (written : WellFormed piece) (front : Blanks before)
    (ended : Ended rest) : Reads skip (before ++ (piece ++ rest)) () rest := by
  obtain ⟨levels, json, written⟩ := written
  unfold skip
  refine (reads_steps _).bind_iff.mpr (reads_discard_iff.mpr ⟨json, ?_⟩)
  have small : piece.length ≤ 2 * (before ++ (piece ++ rest)).length + 2 := by
    simp only [List.length_append]
    omega
  exact complete_readValue _ _ _ _ _ _ (ValueText.shallow levels _ _ _ small written) front ended (by
    simp only [List.length_append]
    omega)

end

end WalletTools.Json
