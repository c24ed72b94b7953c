import WalletTools.Proofs.Json.Documents

/-! Records as they are written. The texts of names, texts and counts follow the grammar, so that every
record is read back from its compact text. -/
namespace WalletTools.Json

section

variable {piece : List Char}

/-! ## Quoted texts -/

theorem letterEscape?_of_escapeLetter? {char letter : Char} (found : escapeLetter? char = some letter) :
    letterEscape? letter = some char := by
  obtain ⟨front, back, listed, _⟩ := List.lookup_eq_some_iff.mp found
  have known : (char, letter) ∈ front ++ (char, letter) :: back := by simp
  rw [← listed] at known
  simp only [List.mem_cons, Prod.mk.injEq, List.not_mem_nil, or_false] at known
  rcases known with ⟨rfl, rfl⟩ | ⟨rfl, rfl⟩ | ⟨rfl, rfl⟩ | ⟨rfl, rfl⟩ | ⟨rfl, rfl⟩ | ⟨rfl, rfl⟩ |
    ⟨rfl, rfl⟩ <;> decide

theorem hexValue?_digitChar (digit : Nat) (small : digit < 16) :
    hexValue? digit.digitChar = some digit := by
  have all : ∀ digit : Fin 16, hexValue? digit.val.digitChar = some digit.val := by decide
  exact all ⟨digit, small⟩

/-- The four digits that escape a control. -/
theorem codeUnit_control {code : Nat} (small : code < 0x20) :
    CodeUnit code ['0', '0', (code / 16).digitChar, (code % 16).digitChar] := by
  have zero : hexValue? '0' = some 0 := by decide
  have written := CodeUnit.mk zero zero
    (hexValue?_digitChar (code / 16) (by omega)) (hexValue?_digitChar (code % 16) (by omega))
  have same : ((0 * 16 + 0) * 16 + code / 16) * 16 + code % 16 = code := by omega
  rwa [same] at written

theorem QuotedText.quoteChar {letters : List Char} (later : QuotedText .kept letters piece) (char : Char) :
    QuotedText .kept (char :: letters) (Json.quoteChar char ++ piece) := by
  unfold Json.quoteChar
  split
  · exact .escaped (.letter (letterEscape?_of_escapeLetter? ‹_›)) later
  · split
    · rename_i control
      have alone : isTrail char.toNat = false ∧ isLead char.toNat = false := by
        simp only [isTrail, isLead, decide_eq_false_iff_not]
        omega
      have escape : EscapeText .kept (Char.ofNat char.toNat) _ :=
        .unit (codeUnit_control control) fun _ => alone
      rw [Char.ofNat_toNat] at escape
      exact .escaped escape later
    · rename_i unescaped visible
      refine .plain ?_ ?_ visible later
      · rintro rfl
        exact absurd unescaped (by decide)
      · rintro rfl
        exact absurd unescaped (by decide)

theorem quotedText_flatMap (letters : List Char) :
    QuotedText .kept letters (letters.flatMap Json.quoteChar) := by
  induction letters with
  | nil => exact .nil
  | cons char letters ih => exact ih.quoteChar char

/-! ## Counts -/

/-- Digits are taken as long as 64 bits hold the number. -/
theorem absorb_eq {digits : List Char} {number : Nat} (small : Nat.ofDigitChars 10 digits number < 2 ^ 64) :
    absorb number digits = (Nat.ofDigitChars 10 digits number, []) := by
  have grows (digits : List Char) (number : Nat) : number ≤ Nat.ofDigitChars 10 digits number := by
    induction digits generalizing number with
    | nil => exact Nat.le_refl _
    | cons digit digits ih =>
      rw [Nat.ofDigitChars_cons]
      exact Nat.le_trans (by omega) (ih _)
  induction digits generalizing number with
  | nil => rfl
  | cons digit digits ih =>
    rw [Nat.ofDigitChars_cons] at small ⊢
    rw [absorb, if_neg (by have := grows digits (10 * number + (digit.toNat - '0'.toNat)); omega)]
    exact ih small

/-- Only zero begins with a zero. -/
theorem toDigits_head_zero (number : Nat) (zero : (Nat.toDigits 10 number).head? = some '0') :
    Nat.toDigits 10 number = ['0'] := by
  induction number using Nat.strongRecOn with
  | _ number ih =>
    rw [Nat.toDigits_eq_if (by decide)] at zero ⊢
    by_cases single : number < 10
    · rw [if_pos single] at zero ⊢
      simpa using zero
    · rw [if_neg single, List.head?_append_of_ne_nil _ Nat.toDigits_ne_nil] at zero
      -- The digits of a tenth would be a zero alone, and the tenth nothing.
      have tenth := ih (number / 10) (by omega) zero
      have none : number / 10 = 0 := by
        rw [← Nat.ofDigitChars_ten_toDigits (n := number / 10), tenth]
        rfl
      omega

theorem scalarText_count (count : UInt64) :
    ScalarText .kept (.number (.integer count.toNat)) (Nat.toDigits 10 count.toNat) := by
  have digits : Digits (Nat.toDigits 10 count.toNat) :=
    ⟨Nat.toDigits_ne_nil, fun _ => Nat.isDigit_of_mem_toDigits (by decide) (by decide)⟩
  have written : NumeralText ⟨false, Nat.toDigits 10 count.toNat, none, none⟩
      (Nat.toDigits 10 count.toNat) := by
    have whole : UnsignedText false _ _ := .mk digits (toDigits_head_zero _) .absent .absent
    rw [List.append_nil, List.append_nil] at whole
    exact .positive whole
  refine .number written (.inl ?_)
  have small : Nat.ofDigitChars 10 (Nat.toDigits 10 count.toNat) 0 < 2 ^ 64 := by
    rw [Nat.ofDigitChars_ten_toDigits]
    exact count.toNat_lt
  unfold Numeral.number?
  rw [absorb_eq small, Nat.ofDigitChars_ten_toDigits]
  simp

/-! ## Members -/

theorem Kind.writes_chars (kind : Kind) (value : kind.Value) : kind.Writes value (kind.chars value) := by
  cases kind with
  | text =>
    have quoted := ScalarText.text (quotedText_flatMap value.toList)
    rwa [String.ofList_toList] at quoted
  | count => exact scalarText_count value

theorem Padded.bare {writes : α → List Char → Prop} {value : α} (written : writes value piece) :
    Padded writes value piece := by
  have padded := Padded.mk blanks_nil written blanks_nil
  rwa [List.nil_append, List.append_nil] at padded

theorem memberText_written {writes : α → List Char → Prop} {value : α} (name : String)
    (written : writes value piece) : MemberText .kept writes (name, value) (memberText name piece) := by
  have member := MemberText.mk blanks_nil (quotedText_flatMap name.toList) blanks_nil
    (Padded.bare written)
  have same : memberText name piece =
      '"' :: (name.toList.flatMap Json.quoteChar ++ '"' :: ':' :: piece) := by simp [memberText, quote]
  rw [same]
  exact member

/-- Items are written one behind the other with nothing but commas between them. -/
theorem enclosedText_enclose {writes : α → List Char → Prop} {text : α → List Char} {first close : Char}
    {values : List α} (written : ∀ value ∈ values, writes value (text value)) :
    EnclosedText writes first close values (enclose first close (values.map text)) := by
  cases values with
  | nil => exact .empty blanks_nil
  | cons value values =>
    refine .filled ?_
    induction values generalizing value with
    | nil =>
      have item : ListText writes close _ _ := .last (written value List.mem_cons_self)
      simpa using item
    | cons other values ih =>
      obtain ⟨item, later⟩ := List.forall_mem_cons.mp written
      have both := ListText.more item (ih other later)
      simpa using both

theorem exists_enclose (first close : Char) (text : List Char) (texts : List (List Char)) :
    ∃ tail, enclose first close (text :: texts) = first :: (text ++ tail) := by
  cases texts with
  | nil => exact ⟨[close], by simp [enclose]⟩
  | cons other texts =>
    exact ⟨',' :: ((other :: texts).intersperse [',']).flatten ++ [close], by simp [enclose]⟩

theorem objectText_enclose (members : List (String × List Char))
    (written : ∀ member ∈ members, WellFormed member.2) : ObjectText members
      (String.ofList (enclose '{' '}' (members.map fun member => memberText member.1 member.2))) := by
  have object : EnclosedText (MemberText .kept Verbatim) '{' '}' members _ :=
    enclosedText_enclose fun member known => memberText_written member.1 (.mk (written member known))
  unfold ObjectText
  rw [String.toList_ofList]
  exact .bare object

/-! ## Records -/

/-- The members that a row is written as. -/
def rowMembers : (fields : List Field) → Row fields → List (String × List Char)
  | [], _ => []
  | field :: fields, (value, row) => (field.name, field.kind.chars value) :: rowMembers fields row

theorem rowChars_eq_map {fields : List Field} (row : Row fields) : Shape.rowChars fields row =
    (rowMembers fields row).map fun member => memberText member.1 member.2 := by
  induction fields with
  | nil => rfl
  | cons field fields ih =>
    obtain ⟨value, row⟩ := row
    rw [Shape.rowChars, rowMembers, List.map_cons, ih]

theorem wellFormed_of_mem_rowMembers {fields : List Field} {row : Row fields}
    {member : String × List Char} (known : member ∈ rowMembers fields row) : WellFormed member.2 := by
  induction fields with
  | nil => cases known
  | cons field fields ih =>
    rcases List.mem_cons.mp known with rfl | later
    · exact (field.kind.writes_chars _).passed
    · exact ih later

theorem mem_names_of_mem_rowMembers {fields : List Field} {row : Row fields}
    {member : String × List Char} (known : member ∈ rowMembers fields row) :
    member.1 ∈ fields.map (·.name) := by
  induction fields with
  | nil => cases known
  | cons field fields ih =>
    rcases List.mem_cons.mp known with rfl | later
    · exact List.mem_cons_self
    · exact List.mem_cons_of_mem _ (ih later)

theorem piecesOf_eq_nil {name : String} {members : List (String × List Char)}
    (apart : ∀ member ∈ members, member.1 ≠ name) : piecesOf name members = [] := by
  simpa [piecesOf] using apart

/-- The members that a row is written as hold its values, whatever members of other names stand before
them. -/
theorem holds_rowMembers {fields : List Field} (distinct : (fields.map (·.name)).Nodup)
    (row : Row fields) (others : List (String × List Char))
    (apart : ∀ member ∈ others, member.1 ∉ fields.map (·.name)) :
    Holds fields row (others ++ rowMembers fields row) := by
  induction fields generalizing others with
  | nil => trivial
  | cons field fields ih =>
    obtain ⟨value, row⟩ := row
    rw [List.map_cons, List.nodup_cons] at distinct
    have before : piecesOf field.name others = [] :=
      piecesOf_eq_nil fun member known same => apart member known (same ▸ List.mem_cons_self)
    have behind : piecesOf field.name (rowMembers fields row) = [] :=
      piecesOf_eq_nil fun member known same =>
        distinct.1 (same ▸ mem_names_of_mem_rowMembers known)
    constructor
    · rw [rowMembers, piecesOf_append, piecesOf_cons, before, behind, piecesOf_self]
      exact .given (field.kind.writes_chars value)
    · rw [rowMembers, List.append_cons]
      refine ih distinct.2 row _ fun member known => ?_
      rcases List.mem_append.mp known with other | own
      · exact fun later => apart member other (List.mem_cons_of_mem _ later)
      · rw [List.mem_singleton.mp own]
        exact distinct.1

/-- A record is read back from its compact text. -/
theorem Shape.parse_compact {shape : Shape α} (distinct : (shape.fields.map (·.name)).Nodup)
    (value : α) : shape.parse (shape.compact value) = .ok (shape.build (shape.parts value)) := by
  have object := objectText_enclose (rowMembers shape.fields (shape.parts value))
    fun _ known => wellFormed_of_mem_rowMembers known
  rw [← rowChars_eq_map] at object
  exact (Shape.parse_eq_ok_iff distinct object).mpr
    ⟨_, holds_rowMembers distinct (shape.parts value) [] nofun, rfl⟩

/-! ## Refusals -/

/-- No value that can be kept stands in front of the text. -/
def Unread (text : List Char) : Prop :=
  ∀ fuel levels json rest, ¬ Reads (readValue .kept fuel levels) text json rest

/-- Half a pair of escapes stands for no character. -/
theorem unread_half (rest : List Char) :
    Unread ('"' :: '\\' :: 'u' :: 'd' :: '8' :: '0' :: '0' :: '"' :: rest) := by
  intro fuel levels json left read
  have half : quoted .kept ('\\' :: 'u' :: 'd' :: '8' :: '0' :: '0' :: '"' :: rest) = .error .malformed := by
    rw [quoted]
    rfl
  cases fuel with
  | zero =>
    unfold readValue at read
    exact not_reads_throw read
  | succ fuel =>
    rw [readValue_succ, (reads_skipBlank _).bind_iff, reads_next_bind_iff] at read
    obtain ⟨char, text, begun, read⟩ := read
    cases begun
    obtain ⟨value, found, _⟩ := reads_bind_pure_iff.mp read
    cases half.symm.trans (quoted_eq_ok_iff.mpr (reads_readQuoted_iff.mp found))

/-- An object is not read where its first value cannot be kept. -/
theorem parse_ne_of_unread {tail : List Char} (unread : Unread tail) (name : String) (json : Json) :
    parse (String.ofList ('{' :: memberText name tail)) ≠ .ok json := by
  intro parsed
  have quoted := quotedText_flatMap name.toList
  have same : memberText name tail =
      '"' :: (name.toList.flatMap Json.quoteChar ++ '"' :: ':' :: tail) := by simp [memberText, quote]
  generalize name.toList.flatMap Json.quoteChar = inner at quoted same
  unfold parse Json.read at parsed
  obtain ⟨rest, read, _⟩ := whole_eq_ok_iff.mp parsed
  rw [String.toList_ofList, same] at read
  have read := (reads_steps _).bind_iff.mp read
  rw [readValue_succ, (reads_skipBlank _).bind_iff, reads_next_bind_iff] at read
  obtain ⟨char, text, begun, read⟩ := read
  cases begun
  have opened : (('"' :: (inner ++ '"' :: ':' :: tail)).dropWhile isBlank).head? ≠ some '}' := by
    change some '"' ≠ some '}'
    decide
  obtain ⟨members, listed, _⟩ := reads_bind_pure_iff.mp ((reads_closedOr_open opened).mp read)
  change Reads (readMembers _ (2 * _ + 1) _) ('"' :: (inner ++ '"' :: ':' :: tail)) _ _ at listed
  rw [readMembers_succ] at listed
  obtain ⟨member, left, _, _, taken, _⟩ := (reads_item_iff (by decide) (by decide)).mp listed
  have mark : Reads (expect '"') ('"' :: (inner ++ '"' :: ':' :: tail)) () _ :=
    reads_expect (by decide) blanks_nil _
  have colon : Reads (expect ':') (':' :: tail) () tail := reads_expect (by decide) blanks_nil _
  unfold readMember at taken
  rw [mark.bind_iff, (quoted.reads _).bind_iff, colon.bind_iff] at taken
  obtain ⟨value, found, _⟩ := reads_bind_pure_iff.mp taken
  exact unread _ _ _ _ found

end

end WalletTools.Json
