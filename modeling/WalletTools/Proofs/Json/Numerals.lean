import WalletTools.Proofs.Json.Steps

/-! Numerals as they are read. They have no end of their own: a numeral is read whole where no further part
of a number follows. -/
namespace WalletTools.Json

section

variable {rules : Rules} {text rest : List Char}

/-- No digit is in front. -/
def NoDigit (text : List Char) : Prop := ∀ char, text.head? = some char → char.isDigit = false

/-- No part of a number is in front. -/
structure Ended (text : List Char) : Prop where
  digit : NoDigit text
  point : text.head? ≠ some '.'
  exponent : text.head? ≠ some 'e' ∧ text.head? ≠ some 'E'

theorem Digits.exists_cons {piece : List Char} (some : Digits piece) :
    ∃ first others, piece = first :: others ∧ first.isDigit = true := by
  obtain ⟨first, others, rfl⟩ := List.exists_cons_of_ne_nil some.nonempty
  exact ⟨first, others, rfl, some.digits first List.mem_cons_self⟩

theorem reads_readDigits_iff {digits : List Char} : Reads (readDigits rules) text digits rest ↔
    Digits digits ∧ text = digits ++ rest ∧ NoDigit rest := by
  unfold readDigits
  rw [(reads_get text).bind_iff]
  cases text with
  | nil =>
    refine ⟨fun read => absurd read not_reads_throw, fun given => ?_⟩
    obtain ⟨some, same, _⟩ := given
    exact absurd (List.append_eq_nil_iff.mp same.symm).1 some.nonempty
  | cons char text =>
    dsimp only
    constructor
    · intro read
      split at read
      · rename_i digit
        rw [(reads_set _ _).bind_iff] at read
        obtain ⟨rfl, rfl⟩ := reads_pure_iff.mp read
        refine ⟨⟨List.cons_ne_nil _ _, List.forall_mem_cons.mpr ⟨digit, ?_⟩⟩, ?_, ?_⟩
        · exact List.all_eq_true.mp List.all_takeWhile
        · rw [List.cons_append, List.takeWhile_append_dropWhile]
        · intro other first
          exact Bool.eq_false_iff.mpr fun digit => absurd digit (by
            simpa [first] using List.head?_dropWhile_not Char.isDigit text)
      · exact absurd read not_reads_throw
    · intro given
      obtain ⟨⟨nonempty, digits'⟩, same, stops⟩ := given
      cases digits with
      | nil => exact absurd rfl nonempty
      | cons first digits =>
        rw [List.cons_append] at same
        cases same
        obtain ⟨digit, others⟩ := List.forall_mem_cons.mp digits'
        rw [if_pos digit, (reads_set _ _).bind_iff, List.takeWhile_append_of_pos others,
          List.dropWhile_append_of_pos others]
        have halt : rest.takeWhile Char.isDigit = [] ∧ rest.dropWhile Char.isDigit = rest := by
          cases rest with
          | nil => exact ⟨rfl, rfl⟩
          | cons char rest => simp [stops char rfl]
        rw [halt.1, halt.2, List.append_nil]
        exact reads_pure _ _

/-- Digits behind a mark that is taken already. -/
theorem reads_digits_behind_iff {behind : List Char} {change : List Char → α} {value : α} :
    Reads (do set behind; return change (← readDigits rules)) text value rest ↔
      ∃ digits, Digits digits ∧ behind = digits ++ rest ∧ NoDigit rest ∧ value = change digits := by
  rw [(reads_set behind text).bind_iff, reads_bind_pure_iff]
  simp only [reads_readDigits_iff, and_assoc]

theorem fractionText_of_reads {fraction? : Option (List Char)}
    (read : Reads (readFraction rules) text fraction? rest) :
    ∃ piece, FractionText fraction? piece ∧ text = piece ++ rest := by
  unfold readFraction at read
  rw [(reads_get text).bind_iff] at read
  split at read
  · rw [map_eq_pure_bind] at read
    obtain ⟨digits, some, rfl, _, rfl⟩ := reads_digits_behind_iff.mp read
    exact ⟨'.' :: digits, .given some, rfl⟩
  · obtain ⟨rfl, rfl⟩ := reads_pure_iff.mp read
    exact ⟨[], .absent, rfl⟩

theorem reads_readFraction {fraction? : Option (List Char)} {piece : List Char}
    (written : FractionText fraction? piece) (digit : NoDigit rest) (point : rest.head? ≠ some '.') :
    Reads (readFraction rules) (piece ++ rest) fraction? rest := by
  unfold readFraction
  rw [(reads_get _).bind_iff]
  cases written with
  | absent =>
    split
    · rename_i same
      exact absurd (congrArg List.head? same) point
    · exact reads_pure _ _
  | given some =>
    dsimp only [List.cons_append]
    rw [map_eq_pure_bind]
    exact reads_digits_behind_iff.mpr ⟨_, some, rfl, digit, rfl⟩

theorem exponentText_of_reads {exponent? : Option (Bool × List Char)}
    (read : Reads (readExponent rules) text exponent? rest) :
    ∃ piece, ExponentText exponent? piece ∧ text = piece ++ rest := by
  unfold readExponent at read
  rw [(reads_get text).bind_iff] at read
  split at read
  · rename_i mark behind
    split at read
    · rename_i letter
      split at read
      · obtain ⟨_, some, rfl, _, rfl⟩ := reads_digits_behind_iff.mp read
        exact ⟨_, .minus letter some, rfl⟩
      · obtain ⟨_, some, rfl, _, rfl⟩ := reads_digits_behind_iff.mp read
        exact ⟨_, .plus letter some, rfl⟩
      · obtain ⟨_, some, rfl, _, rfl⟩ := reads_digits_behind_iff.mp read
        exact ⟨_, .bare letter some, rfl⟩
    · obtain ⟨rfl, rfl⟩ := reads_pure_iff.mp read
      exact ⟨[], .absent, rfl⟩
  · obtain ⟨rfl, rfl⟩ := reads_pure_iff.mp read
    exact ⟨[], .absent, rfl⟩

theorem reads_readExponent {exponent? : Option (Bool × List Char)} {piece : List Char}
    (written : ExponentText exponent? piece) (ended : Ended rest) :
    Reads (readExponent rules) (piece ++ rest) exponent? rest := by
  unfold readExponent
  rw [(reads_get _).bind_iff]
  cases written with
  | absent =>
    cases rest with
    | nil => exact reads_pure _ _
    | cons char rest =>
      have other : ¬ (char = 'e' ∨ char = 'E') := by
        rintro (rfl | rfl)
        · exact ended.exponent.1 rfl
        · exact ended.exponent.2 rfl
      dsimp only [List.nil_append]
      rw [if_neg other]
      exact reads_pure _ _
  | bare letter some =>
    obtain ⟨first, others, rfl, digit⟩ := some.exists_cons
    dsimp only [List.cons_append]
    rw [if_pos letter]
    split
    · rename_i same
      cases same
      exact absurd digit (by decide)
    · rename_i same
      cases same
      exact absurd digit (by decide)
    · exact reads_digits_behind_iff.mpr ⟨_, some, rfl, ended.digit, rfl⟩
  | plus letter some =>
    dsimp only [List.cons_append]
    rw [if_pos letter]
    exact reads_digits_behind_iff.mpr ⟨_, some, rfl, ended.digit, rfl⟩
  | minus letter some =>
    dsimp only [List.cons_append]
    rw [if_pos letter]
    exact reads_digits_behind_iff.mpr ⟨_, some, rfl, ended.digit, rfl⟩

theorem ExponentText.stops {exponent? : Option (Bool × List Char)} {piece : List Char}
    (written : ExponentText exponent? piece) (ended : Ended rest) :
    NoDigit (piece ++ rest) ∧ (piece ++ rest).head? ≠ some '.' := by
  have stops {mark : Char} (letter : mark = 'e' ∨ mark = 'E') (behind : List Char) :
      NoDigit (mark :: behind) ∧ (mark :: behind).head? ≠ some '.' := by
    rcases letter with rfl | rfl
    · exact ⟨fun _ first => by cases first; decide, by simp⟩
    · exact ⟨fun _ first => by cases first; decide, by simp⟩
  cases written with
  | absent => exact ⟨ended.digit, ended.point⟩
  | bare letter some => exact stops letter _
  | plus letter some => exact stops letter _
  | minus letter some => exact stops letter _

theorem FractionText.stops {fraction? : Option (List Char)} {piece : List Char}
    (written : FractionText fraction? piece) (digit : NoDigit rest) : NoDigit (piece ++ rest) := by
  cases written with
  | absent => exact digit
  | given some => exact fun _ first => by cases first; decide

theorem unsignedText_of_reads {negative : Bool} {numeral : Numeral}
    (read : Reads (readNumeral rules negative) text numeral rest) :
    ∃ piece, UnsignedText negative numeral piece ∧ text = piece ++ rest := by
  unfold readNumeral at read
  obtain ⟨whole, _, first, behind⟩ := reads_bind_iff.mp read
  obtain ⟨lead, later⟩ := reads_refuse_iff.mp behind
  obtain ⟨fraction?, _, second, ending⟩ := reads_bind_iff.mp later
  obtain ⟨exponent?, third, rfl⟩ := reads_bind_pure_iff.mp ending
  obtain ⟨some, rfl, _⟩ := reads_readDigits_iff.mp first
  obtain ⟨middle, fraction, rfl⟩ := fractionText_of_reads second
  obtain ⟨last, exponent, rfl⟩ := exponentText_of_reads third
  refine ⟨whole ++ (middle ++ last), .mk some ?_ fraction exponent, ?_⟩
  · intro zero
    exact Decidable.not_not.mp fun other => lead ⟨zero, other⟩
  · simp only [List.append_assoc]

theorem reads_readNumeral {negative : Bool} {numeral : Numeral} {piece : List Char}
    (written : UnsignedText negative numeral piece) (ended : Ended rest) :
    Reads (readNumeral rules negative) (piece ++ rest) numeral rest := by
  obtain ⟨some, lead, fraction, exponent⟩ := written
  obtain ⟨digit, point⟩ := exponent.stops ended
  unfold readNumeral
  simp only [List.append_assoc]
  refine reads_bind_iff.mpr ⟨_, _, reads_readDigits_iff.mpr ⟨some, rfl, fraction.stops digit⟩, ?_⟩
  refine reads_refuse_iff.mpr ⟨fun other => other.2 (lead other.1), ?_⟩
  refine reads_bind_iff.mpr ⟨_, _, reads_readFraction fraction digit point, ?_⟩
  exact reads_bind_pure_iff.mpr ⟨_, reads_readExponent exponent ended, rfl⟩

theorem reads_value_iff {numeral : Numeral} {value : Number} :
    Reads (numeral.value rules) text value rest ↔ numeral.Means rules value ∧ rest = text := by
  unfold Numeral.value Numeral.Means
  cases numeral.number? with
  | some number =>
    dsimp only
    rw [reads_pure_iff, Option.some.injEq, eq_comm]
    simp
  | none =>
    dsimp only
    cases rules.bounded with
    | true => simpa using not_reads_throw
    | false => simpa using reads_pure_iff

/-- A number as it is read behind its first character. -/
theorem numeralText_of_reads {first : Char} {value : Number}
    (read : Reads (readNumber rules first) text value rest) : ∃ numeral piece,
      NumeralText numeral piece ∧ numeral.Means rules value ∧ first :: text = piece ++ rest := by
  unfold readNumber at read
  split at read
  · rename_i minus
    obtain ⟨numeral, _, read, later⟩ := reads_bind_iff.mp read
    obtain ⟨piece, written, rfl⟩ := unsignedText_of_reads read
    obtain ⟨means, rfl⟩ := reads_value_iff.mp later
    exact ⟨numeral, '-' :: piece, .negative written, means, by rw [minus]; rfl⟩
  · split at read
    · rw [(reads_modify _ _).bind_iff] at read
      obtain ⟨numeral, _, read, later⟩ := reads_bind_iff.mp read
      obtain ⟨piece, written, same⟩ := unsignedText_of_reads read
      obtain ⟨means, rfl⟩ := reads_value_iff.mp later
      exact ⟨numeral, piece, .positive written, means, same⟩
    · exact absurd read not_reads_throw

/-- A numeral begins with a sign or a digit. -/
theorem NumeralText.exists_cons {numeral : Numeral} {piece : List Char}
    (written : NumeralText numeral piece) :
    ∃ first others, piece = first :: others ∧ (first = '-' ∨ first.isDigit = true) := by
  cases written with
  | negative _ => exact ⟨'-', _, rfl, .inl rfl⟩
  | positive written =>
    obtain ⟨some, _, _, _⟩ := written
    obtain ⟨first, others, rfl, digit⟩ := some.exists_cons
    exact ⟨first, _, rfl, .inr digit⟩

theorem reads_readNumber {first : Char} {numeral : Numeral} {piece : List Char} {value : Number}
    (written : NumeralText numeral piece) (means : numeral.Means rules value) (ended : Ended rest)
    (same : first :: text = piece ++ rest) : Reads (readNumber rules first) text value rest := by
  unfold readNumber
  cases written with
  | negative written =>
    cases same
    rw [if_pos rfl]
    exact reads_bind_iff.mpr ⟨numeral, rest, reads_readNumeral written ended,
      reads_value_iff.mpr ⟨means, rfl⟩⟩
  | positive written =>
    have read : Reads (readNumeral rules false) (first :: text) numeral rest :=
      same ▸ reads_readNumeral written ended
    obtain ⟨some, _, _, _⟩ := written
    obtain ⟨digit, others, rfl, isDigit⟩ := some.exists_cons
    obtain ⟨rfl, _⟩ := List.cons.inj same
    rw [if_neg (by rintro rfl; exact absurd isDigit (by decide)), if_pos isDigit,
      (reads_modify _ _).bind_iff]
    exact reads_bind_iff.mpr ⟨_, rest, read, reads_value_iff.mpr ⟨means, rfl⟩⟩

end

end WalletTools.Json
