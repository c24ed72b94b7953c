import WalletTools.Proofs.Json.Records

/-! Whatever gives a record follows the grammar of JSON, whether it is an object or an array. -/
namespace WalletTools.Json

section

variable {text rest piece : List Char}

/-! ## Compound values -/

section

variable {writes : α → List Char → Prop} {other : β → List Char → Prop} {size : Nat} {close : Char}

theorem ListText.exchange (written : ListText writes close values piece) (small : piece.length ≤ size)
    (all : ∀ value piece, piece.length ≤ size → writes value piece → ∃ value, other value piece) :
    ∃ values, ListText other close values piece := by
  induction written with
  | last item =>
    rw [List.length_append] at small
    obtain ⟨value, item⟩ := all _ _ (by omega) item
    exact ⟨_, .last item⟩
  | more item _ ih =>
    rw [List.length_append, List.length_cons] at small
    obtain ⟨value, item⟩ := all _ _ (by omega) item
    obtain ⟨values, later⟩ := ih (by omega)
    exact ⟨_, .more item later⟩

theorem EnclosedText.exchange {first : Char} (written : EnclosedText writes first close values piece)
    (all : ∀ value item, item.length ≤ piece.length → writes value item → ∃ value, other value item) :
    ∃ values, EnclosedText other first close values piece := by
  cases written with
  | empty blank => exact ⟨_, .empty blank⟩
  | filled items =>
    obtain ⟨values, items⟩ := items.exchange (Nat.le_succ _) all
    exact ⟨values, .filled items⟩

end

theorem Verbatim.value {given : List Char} (written : Verbatim given piece) (size : Nat)
    (small : piece.length ≤ size) : ∃ json, ValueText .passed size json piece := by
  obtain ⟨levels, json, written⟩ := written
  exact ⟨json, ValueText.shallow levels size _ _ small written⟩

theorem wellFormed_object {members : List (String × List Char)}
    (written : EnclosedText (MemberText .passed Verbatim) '{' '}' members piece) : WellFormed piece := by
  have each (member : String × List Char) (item : List Char) (small : item.length ≤ piece.length)
      (written : MemberText .passed Verbatim member item) :
      ∃ value, MemberText .passed (ValueText .passed piece.length) value item := by
    obtain ⟨front, quoted, between, ⟨inside, told, back⟩⟩ := written
    simp only [List.length_append, List.length_cons] at small
    obtain ⟨json, told⟩ := told.value piece.length (by omega)
    exact ⟨(_, json), .mk front quoted between (.mk inside told back)⟩
  obtain ⟨values, written⟩ := written.exchange each
  exact ⟨piece.length + 1, _, .inr (.object written)⟩

theorem wellFormed_array {pieces : List (List Char)}
    (written : EnclosedText (Padded Verbatim) '[' ']' pieces piece) : WellFormed piece := by
  have each (given item : List Char) (small : item.length ≤ piece.length)
      (written : Padded Verbatim given item) :
      ∃ value, Padded (ValueText .passed piece.length) value item := by
    obtain ⟨front, told, back⟩ := written
    simp only [List.length_append] at small
    obtain ⟨json, told⟩ := told.value piece.length (by omega)
    exact ⟨json, .mk front told back⟩
  obtain ⟨values, written⟩ := written.exchange each
  exact ⟨piece.length + 1, _, .inr (.array written)⟩

/-- What is a value under any rules can be passed over. -/
theorem ValueText.wellFormed {levels : Nat} {json : Json} (written : ValueText rules levels json piece) :
    WellFormed piece := by
  induction levels generalizing json piece with
  | zero => exact ScalarText.passed written
  | succ levels ih =>
    rcases written with scalar | compound
    · exact scalar.passed
    · cases compound with
      | array written =>
        have each (element : Json) (item : List Char) (_ : item.length ≤ piece.length)
            (told : Padded (ValueText rules levels) element item) : ∃ given, Padded Verbatim given item := by
          obtain ⟨front, told, back⟩ := told
          exact ⟨_, .mk front (.mk (ih told)) back⟩
        obtain ⟨pieces, written⟩ := written.exchange each
        exact wellFormed_array written
      | object written =>
        have each (member : String × Json) (item : List Char) (_ : item.length ≤ piece.length)
            (told : MemberText rules (ValueText rules levels) member item) :
            ∃ given, MemberText .passed Verbatim given item := by
          obtain ⟨front, quoted, between, ⟨inside, told, back⟩⟩ := told
          obtain ⟨letters, quoted⟩ := quoted.passed
          rw [← String.toList_ofList (l := letters)] at quoted
          exact ⟨(_, _), .mk front quoted between (.mk inside (.mk (ih told)) back)⟩
        obtain ⟨members, written⟩ := written.exchange each
        exact wellFormed_object written

/-! ## Objects -/

/-- What follows the name of a member: a colon and the value. -/
theorem Draft.takes_sound {fields : List Field} {draft later : Draft fields} {name : String}
    (read : Reads (Draft.takes fields draft name) text later rest) : ∃ gap before piece,
      Blanks gap ∧ Blanks before ∧ WellFormed piece ∧ text = gap ++ ':' :: (before ++ (piece ++ rest)) := by
  induction fields with
  | nil =>
    obtain ⟨gap, _, between, rfl, value⟩ := (reads_expect_bind_iff (by decide)).mp read
    obtain ⟨_, _, skipped, done⟩ := reads_bind_iff.mp value
    obtain ⟨_, rfl⟩ := reads_pure_iff.mp done
    obtain ⟨before, piece, front, written, rfl⟩ := sound_skip _ _ _ skipped
    exact ⟨gap, before, piece, between, front, written, rfl⟩
  | cons field fields ih =>
    obtain ⟨held?, draft⟩ := draft
    by_cases named : field.name = name
    · unfold Draft.takes at read
      rw [Draft.enter, if_pos named] at read
      obtain ⟨_, found⟩ := reads_refuse_iff.mp read
      obtain ⟨gap, _, between, rfl, value⟩ := (reads_expect_bind_iff (by decide)).mp found
      obtain ⟨value, taken, _⟩ := reads_bind_pure_iff.mp value
      obtain ⟨before, piece, front, written, rfl⟩ := field.kind.sound _ _ _ taken
      exact ⟨gap, before, piece, between, front, written.passed, rfl⟩
    · rw [Draft.takes_cons_other named] at read
      obtain ⟨_, others, _⟩ := reads_bind_pure_iff.mp read
      exact ih others

theorem Draft.member_sound {fields : List Field} (draft : Draft fields) :
    SoundItem (fun _ piece => ∃ member, MemberText .passed Verbatim member piece)
      (Draft.member fields draft) := by
  intro text later behind rest back read
  obtain ⟨before, _, front, rfl, named⟩ := (reads_expect_bind_iff (by decide)).mp read
  obtain ⟨name, inner, _, quoted, rfl, taken⟩ := reads_readQuoted_bind_iff.mp named
  obtain ⟨gap, inside, piece, between, blank, written, rfl⟩ := Draft.takes_sound taken
  obtain ⟨letters, quoted⟩ := quoted.passed
  rw [← String.toList_ofList (l := letters)] at quoted
  exact ⟨_, ⟨_, .mk front quoted between (.mk blank (.mk written) back)⟩, by simp⟩

theorem Draft.members_sound {fields : List Field} {fuel : Nat} {draft later : Draft fields}
    (read : Reads (Draft.members fields fuel draft) text later rest) :
    ∃ members piece, ListText (MemberText .passed Verbatim) '}' members piece ∧ text = piece ++ rest := by
  induction fuel generalizing text draft with
  | zero => exact absurd read not_reads_throw
  | succ fuel ih =>
    obtain ⟨middle, _, before, behind, taken, blank, continued⟩ :=
      (reads_item_iff (by decide) (by decide)).mp read
    rcases continued with ⟨rfl, more⟩ | ⟨rfl, last⟩
    · obtain ⟨piece, ⟨member, written⟩, rfl⟩ := Draft.member_sound draft _ _ _ _ blank taken
      obtain ⟨members, others, listed, rfl⟩ := ih more
      exact ⟨_, _, .more written listed, by simp⟩
    · obtain ⟨_, rfl⟩ := reads_pure_iff.mp last
      obtain ⟨piece, ⟨member, written⟩, rfl⟩ := Draft.member_sound draft _ _ _ _ blank taken
      exact ⟨_, _, .last written, by simp⟩

theorem passesBlanks_members (fields : List Field) (fuel : Nat) (draft : Draft fields) :
    PassesBlanks (Draft.members fields fuel draft) := by
  cases fuel with
  | zero => exact passesBlanks_throw _
  | succ fuel => exact ((passesBlanks_expect '"').bind _).bind _

theorem readObject_sound {fields : List Field} {row : Row fields}
    (read : Reads (readObject fields) text row rest) :
    ∃ piece, WellFormed piece ∧ '{' :: text = piece ++ rest := by
  rw [readObject_eq] at read
  rcases (reads_closedOr_iff (by decide)).mp read with ⟨between, _, blank, rfl, done⟩ | ⟨_, filled⟩
  · obtain ⟨_, rfl⟩ := reads_liftM_iff.mp done
    exact ⟨_, wellFormed_object (.empty blank), by simp⟩
  · rw [(reads_get _).bind_iff] at filled
    obtain ⟨draft, _, taken, done⟩ := reads_bind_iff.mp filled
    obtain ⟨_, rfl⟩ := reads_liftM_iff.mp done
    obtain ⟨members, body, listed, rfl⟩ :=
      Draft.members_sound ((passesBlanks_members _ _ _ _ _ _).mp taken)
    exact ⟨_, wellFormed_object (.filled listed), rfl⟩

/-! ## Arrays -/

/-- What follows an element of an array: its end, or a comma and further elements. -/
inductive Following (rest : List Char) : List Char → Prop
  | close (blank : Blanks before) : Following rest (before ++ ']' :: rest)
  | more (blank : Blanks before) (later : ListText (Padded Verbatim) ']' pieces body) :
      Following rest (before ++ ',' :: (body ++ rest))

/-- An element and what follows it. -/
theorem Following.list {before : List Char} (follows : Following rest text) (front : Blanks before)
    (written : WellFormed piece) : ∃ pieces body, ListText (Padded Verbatim) ']' pieces body ∧
      before ++ (piece ++ text) = body ++ rest := by
  cases follows with
  | close blank => exact ⟨_, _, .last (.mk front (.mk written) blank), by simp⟩
  | more blank later => exact ⟨_, _, .more (.mk front (.mk written) blank) later, by simp⟩

theorem Blanks.append {front behind : List Char} (blank : Blanks front) (other : Blanks behind) :
    Blanks (front ++ behind) := by
  intro char member
  exact (List.mem_append.mp member).elim (blank char) (other char)

theorem Following.blanks {front : List Char} (follows : Following rest text) (blank : Blanks front) :
    Following rest (front ++ text) := by
  cases follows with
  | close inner => exact List.append_assoc _ _ _ ▸ .close (blank.append inner)
  | more inner later => exact List.append_assoc _ _ _ ▸ .more (blank.append inner) later

/-- An array ends before a field, or its next element gives the field its value. -/
theorem readRow_cons_cases {title : String} {size : Nat} {field : Field} {fields : List Field}
    {count : Nat} {row : Row (field :: fields)}
    (read : Reads (readRow title size (field :: fields) count) text row rest) :
    text.dropWhile isBlank = ']' :: rest ∨ ∃ middle value others left,
      (if 0 < count then ∃ before, Blanks before ∧ text.dropWhile isBlank = before ++ ',' :: middle
        else text.dropWhile isBlank = middle) ∧
      Reads field.kind.read middle value left ∧
      Reads (readRow title size fields (count + 1)) left others rest := by
  unfold readRow at read
  rw [(reads_skipBlank text).bind_iff, (reads_peek _).bind_iff] at read
  by_cases closed : (text.dropWhile isBlank).head? = some ']'
  · left
    rw [if_pos closed] at read
    obtain ⟨_, _, filled, ended⟩ := reads_bind_iff.mp read
    obtain ⟨_, rfl⟩ := reads_liftM_iff.mp filled
    obtain ⟨_, _, taken, done⟩ := reads_bind_iff.mp ended
    obtain ⟨_, rfl⟩ := reads_pure_iff.mp done
    obtain ⟨mark, taken⟩ := reads_discard_iff.mp taken
    have same := reads_next_iff.mp taken
    rw [same, List.head?_cons, Option.some.injEq] at closed
    rw [same, closed]
  · right
    rw [if_neg closed] at read
    have element {middle : List Char} (read : Reads (do
        let value ← field.kind.read
        return (value, ← readRow title size fields (count + 1))) middle row rest) :
        ∃ value others left, Reads field.kind.read middle value left ∧
          Reads (readRow title size fields (count + 1)) left others rest := by
      obtain ⟨value, left, taken, later⟩ := reads_bind_iff.mp read
      obtain ⟨others, later, _⟩ := reads_bind_pure_iff.mp later
      exact ⟨value, others, left, taken, later⟩
    by_cases first : 0 < count
    · simp only [if_pos first] at read ⊢
      obtain ⟨before, middle, blank, same, later⟩ := (reads_expect_bind_iff (by decide)).mp read
      obtain ⟨value, others, left, taken, rest⟩ := element later
      exact ⟨middle, value, others, left, ⟨before, blank, same⟩, taken, rest⟩
    · simp only [if_neg first] at read ⊢
      obtain ⟨value, others, left, taken, rest⟩ := element read
      exact ⟨_, value, others, left, rfl, taken, rest⟩

/-- What follows the elements that are read already. -/
theorem readRow_following {title : String} {size : Nat} {fields : List Field} {count : Nat}
    {row : Row fields} (read : Reads (readRow title size fields (count + 1)) text row rest) :
    Following rest text := by
  induction fields generalizing count text with
  | nil =>
    obtain ⟨before, blank, rfl⟩ := (reads_expect_iff (by decide)).mp read
    exact .close blank
  | cons field fields ih =>
    obtain ⟨front, blank, same⟩ := exists_blanks text
    rw [same]
    refine Following.blanks ?_ blank
    rcases readRow_cons_cases read with closed | ⟨middle, value, others, left, comma, taken, later⟩
    · rw [closed]
      exact .close blanks_nil
    · rw [if_pos (Nat.succ_pos count)] at comma
      obtain ⟨before, between, same⟩ := comma
      obtain ⟨inside, piece, inner, written, rfl⟩ := field.kind.sound _ _ _ taken
      obtain ⟨pieces, body, listed, all⟩ := (ih later).list inner written.passed
      rw [same, all]
      exact .more between listed

theorem readRow_sound {title : String} {size : Nat} {fields : List Field} {row : Row fields}
    (read : Reads (readRow title size fields 0) text row rest) :
    ∃ piece, WellFormed piece ∧ '[' :: text = piece ++ rest := by
  cases fields with
  | nil =>
    obtain ⟨before, blank, rfl⟩ := (reads_expect_iff (by decide)).mp read
    exact ⟨_, wellFormed_array (.empty blank), by simp⟩
  | cons field fields =>
    obtain ⟨front, blank, same⟩ := exists_blanks text
    rcases readRow_cons_cases read with closed | ⟨middle, value, others, left, first, taken, later⟩
    · exact ⟨_, wellFormed_array (.empty blank), by rw [same, closed]; simp⟩
    · rw [if_neg (Nat.lt_irrefl 0)] at first
      obtain ⟨inside, piece, inner, written, rfl⟩ := field.kind.sound _ _ _ taken
      obtain ⟨pieces, body, listed, all⟩ :=
        (readRow_following later).list (blank.append inner) written.passed
      exact ⟨_, wellFormed_array (.filled listed), by rw [same, first, ← List.append_assoc, all]; rfl⟩

/-! ## Records -/

/-- A value behind its first mark. -/
theorem sound_behind {first : Char} {scanner : Scanner β} {build : β → α} {value : α}
    (sound : ∀ {text value}, Reads scanner text value rest →
      ∃ piece, WellFormed piece ∧ first :: text = piece ++ rest)
    (begun : text.head? = some first)
    (read : Reads (do discard next; return build (← scanner)) text value rest) :
    ∃ piece, WellFormed piece ∧ text = piece ++ rest := by
  obtain ⟨behind, rfl⟩ := List.head?_eq_some_iff.mp begun
  have taken : Reads (discard next) (first :: behind) () behind :=
    reads_discard_iff.mpr ⟨_, reads_next_iff.mpr rfl⟩
  obtain ⟨_, later, _⟩ := reads_bind_pure_iff.mp (taken.bind_iff.mp read)
  exact sound later

theorem Shape.scanner_sound (shape : Shape α) : Sound (fun _ => WellFormed) shape.scanner := by
  intro text value rest read
  have behind (written : ∃ piece, WellFormed piece ∧ text.dropWhile isBlank = piece ++ rest) :
      ∃ before piece, Blanks before ∧ WellFormed piece ∧ text = before ++ (piece ++ rest) := by
    obtain ⟨front, blank, same⟩ := exists_blanks text
    obtain ⟨piece, written, dropped⟩ := written
    exact ⟨front, piece, blank, written, dropped ▸ same⟩
  unfold Shape.scanner at read
  rw [(reads_skipBlank text).bind_iff, (reads_peek _).bind_iff] at read
  split at read
  · exact absurd read not_reads_throw
  · exact behind (sound_behind readObject_sound ‹_› read)
  · exact behind (sound_behind readRow_sound ‹_› read)
  · exact absurd read (refuses_reject _ _ _ _)

/-- A text that is read as a record is JSON. -/
theorem Shape.document_of_parse {shape : Shape α} {text : String} {value : α}
    (read : shape.parse text = .ok value) : Document text := by
  obtain ⟨rest, taken, back⟩ := whole_eq_ok_iff.mp read
  obtain ⟨before, piece, front, written, same⟩ := shape.scanner_sound _ _ _ taken
  unfold Document
  rw [same]
  exact .mk front written back

end

end WalletTools.Json
