import WalletTools.Proofs.Json.Steps

/-! Quoted texts as they are read, up to the mark that ends them. -/
namespace WalletTools.Json

section

variable {rules : Rules} {text rest : List Char}

theorem CodeUnit.length {code : Nat} {digits : List Char} (written : CodeUnit code digits) :
    digits.length = 4 := by
  cases written
  rfl

theorem codeUnit_eq_ok_iff {code : Nat} :
    codeUnit text = .ok code ↔ ∃ digits rest, CodeUnit code digits ∧ text = digits ++ rest := by
  constructor
  · intro read
    unfold codeUnit at read
    split at read
    · split at read
      · cases read
        exact ⟨_, _, .mk ‹_› ‹_› ‹_› ‹_›, rfl⟩
      · cases read
    · cases read
  · intro given
    obtain ⟨_, rest, ⟨first, second, third, fourth⟩, rfl⟩ := given
    simp only [List.cons_append, List.nil_append, codeUnit, first, second, third, fourth]

theorem CodeUnit.read {code : Nat} {digits : List Char} (written : CodeUnit code digits)
    (rest : List Char) : codeUnit (digits ++ rest) = .ok code :=
  codeUnit_eq_ok_iff.mpr ⟨digits, rest, written, rfl⟩

theorem trailUnit_eq_ok_iff {code : Nat} : trailUnit text = .ok code ↔ ∃ digits rest,
    CodeUnit code digits ∧ isTrail code = true ∧ text = '\\' :: 'u' :: (digits ++ rest) := by
  constructor
  · intro read
    unfold trailUnit at read
    split at read
    · cases read
    · split at read
      · cases read
      · obtain ⟨unit, written, read⟩ := bind_eq_ok_iff.mp read
        split at read
        · rename_i trail
          cases read
          obtain ⟨digits, rest, spelled, rfl⟩ := codeUnit_eq_ok_iff.mp written
          exact ⟨digits, rest, spelled, trail, rfl⟩
        · cases read
      · cases read
    · cases read
  · intro given
    obtain ⟨digits, rest, written, trail, rfl⟩ := given
    refine bind_eq_ok_iff.mpr ⟨code, written.read rest, ?_⟩
    rw [if_pos trail]
    rfl

theorem isTrail_of_isLead {code : Nat} (lead : isLead code = true) : isTrail code = false := by
  simp only [isLead, isTrail, decide_eq_true_eq, decide_eq_false_iff_not] at lead ⊢
  omega

theorem escapeText_of_codeEscape {char : Char} {count : Nat}
    (read : codeEscape rules text = .ok (char, count)) : ∃ piece rest,
      EscapeText rules char ('u' :: piece) ∧ text = piece ++ rest ∧ count = piece.length := by
  unfold codeEscape at read
  obtain ⟨unit, found, read⟩ := bind_eq_ok_iff.mp read
  obtain ⟨digits, behind, written, rfl⟩ := codeUnit_eq_ok_iff.mp found
  split at read
  · rename_i alone
    cases read
    have alone : rules.paired = false := by simpa using alone
    exact ⟨digits, behind, .unit written fun paired => absurd paired (by simp [alone]), rfl,
      written.length.symm⟩
  · rename_i paired
    have paired : rules.paired = true := by simpa using paired
    obtain ⟨notTrail, read⟩ := refuse_eq_ok_iff.mp read
    have notTrail := Bool.eq_false_iff.mpr notTrail
    split at read
    · rename_i lead
      obtain ⟨trail, found, read⟩ := bind_eq_ok_iff.mp read
      obtain ⟨rfl, rfl⟩ := Prod.mk.inj (Except.ok.inj read)
      rw [List.drop_left' written.length] at found
      obtain ⟨others, rest, second, isTrail, rfl⟩ := trailUnit_eq_ok_iff.mp found
      refine ⟨digits ++ '\\' :: 'u' :: others, rest, .pair paired written lead second isTrail, ?_, ?_⟩
      · simp
      · simp [written.length, second.length]
    · rename_i single
      cases read
      exact ⟨digits, behind, .unit written fun _ => ⟨notTrail, Bool.eq_false_iff.mpr single⟩, rfl,
        written.length.symm⟩

theorem escapeText_of_escape {char : Char} {count : Nat}
    (read : escape rules text = .ok (char, count)) : ∃ piece rest,
      EscapeText rules char piece ∧ text = piece ++ rest ∧ count = piece.length := by
  unfold escape at read
  split at read
  · cases read
  · split at read
    · rename_i known
      obtain ⟨rfl, rfl⟩ := Prod.mk.inj (Except.ok.inj read)
      exact ⟨[_], _, .letter known, rfl, rfl⟩
    · split at read
      · rename_i mark
        subst mark
        rw [map_eq_pure_bind] at read
        obtain ⟨⟨meant, length⟩, found, read⟩ := bind_eq_ok_iff.mp read
        obtain ⟨rfl, rfl⟩ := Prod.mk.inj (Except.ok.inj read)
        obtain ⟨piece, rest, written, rfl, rfl⟩ := escapeText_of_codeEscape found
        exact ⟨'u' :: piece, rest, written, rfl, rfl⟩
      · cases read

theorem EscapeText.read {char : Char} {piece : List Char} (written : EscapeText rules char piece)
    (rest : List Char) : escape rules (piece ++ rest) = .ok (char, piece.length) := by
  have number {digits : List Char} (read : codeEscape rules (digits ++ rest) = .ok (char, digits.length)) :
      escape rules ('u' :: (digits ++ rest)) = .ok (char, digits.length + 1) := by
    have unknown : letterEscape? 'u' = none := by decide
    unfold escape
    dsimp only
    rw [unknown]
    dsimp only
    rw [if_pos rfl, read]
    rfl
  cases written with
  | letter known =>
    unfold escape
    dsimp only [List.cons_append, List.nil_append]
    rw [known]
    rfl
  | unit written whole =>
    refine number ?_
    unfold codeEscape
    refine bind_eq_ok_iff.mpr ⟨_, written.read rest, ?_⟩
    rw [written.length]
    cases paired : rules.paired with
    | false => rfl
    | true =>
      obtain ⟨trail, lead⟩ := whole paired
      simp [trail, lead]
      rfl
  | pair paired first lead second trail =>
    rw [List.cons_append]
    refine number ?_
    unfold codeEscape
    rw [List.append_assoc]
    refine bind_eq_ok_iff.mpr ⟨_, first.read _, ?_⟩
    rw [paired, if_neg (by decide), List.drop_left' first.length]
    refine refuse_eq_ok_iff.mpr ⟨by rw [isTrail_of_isLead lead]; decide, ?_⟩
    rw [if_pos lead]
    refine bind_eq_ok_iff.mpr ⟨_, trailUnit_eq_ok_iff.mpr ⟨_, rest, second, trail, rfl⟩, ?_⟩
    rw [List.length_append, List.length_cons, List.length_cons, first.length, second.length]
    rfl

/-- The text between the marks, and what follows the last. -/
theorem quoted_eq_ok_iff {letters : List Char} : quoted rules text = .ok (letters, rest) ↔
    ∃ inner, QuotedText rules letters inner ∧ text = inner ++ '"' :: rest := by
  constructor
  · intro read
    -- A step takes one character or an escape, so that the text gets shorter.
    induction size : text.length using Nat.strongRecOn generalizing text letters with
    | _ size ih =>
      cases text with
      | nil =>
        rw [quoted] at read
        cases read
      | cons char text =>
        rw [quoted] at read
        split at read
        · rename_i mark
          obtain ⟨rfl, rfl⟩ := Prod.mk.inj (Except.ok.inj read)
          exact ⟨[], .nil, by rw [mark]; rfl⟩
        · rename_i mark
          split at read
          · rename_i slash
            obtain ⟨⟨meant, count⟩, found, read⟩ := bind_eq_ok_iff.mp read
            obtain ⟨⟨others, left⟩, later, done⟩ := bind_eq_ok_iff.mp read
            obtain ⟨rfl, rfl⟩ := Prod.mk.inj (Except.ok.inj done)
            obtain ⟨piece, behind, escape, rfl, rfl⟩ := escapeText_of_escape found
            rw [List.drop_left] at later
            obtain ⟨inner, written, rfl⟩ := ih behind.length
              (by rw [← size, List.length_cons, List.length_append]; omega) later rfl
            exact ⟨'\\' :: (piece ++ inner), .escaped escape written, by simp [slash]⟩
          · rename_i slash
            split at read
            · cases read
            · rename_i visible
              obtain ⟨⟨others, left⟩, later, done⟩ := bind_eq_ok_iff.mp read
              obtain ⟨rfl, rfl⟩ := Prod.mk.inj (Except.ok.inj done)
              obtain ⟨inner, written, rfl⟩ := ih text.length
                (by rw [← size, List.length_cons]; omega) later rfl
              exact ⟨char :: inner, .plain mark slash visible written, rfl⟩
  · intro given
    obtain ⟨inner, written, rfl⟩ := given
    induction written with
    | nil =>
      rw [List.nil_append, quoted]
      rfl
    | plain mark slash visible _ ih =>
      rw [List.cons_append, quoted, if_neg mark, if_neg slash, if_neg visible]
      exact bind_eq_ok_iff.mpr ⟨_, ih, rfl⟩
    | escaped escape _ ih =>
      rw [List.cons_append, quoted, if_neg (by decide), if_pos rfl, List.append_assoc]
      refine bind_eq_ok_iff.mpr ⟨_, escape.read _, ?_⟩
      dsimp only
      rw [List.drop_left]
      exact bind_eq_ok_iff.mpr ⟨_, ih, rfl⟩

theorem reads_readQuoted_iff {value : String} : Reads (readQuoted rules) text value rest ↔
    ∃ inner, QuotedText rules value.toList inner ∧ text = inner ++ '"' :: rest := by
  rw [← quoted_eq_ok_iff]
  unfold readQuoted
  rw [(reads_get text).bind_iff, reads_bind_iff]
  constructor
  · intro success
    obtain ⟨⟨letters, left⟩, _, found, done⟩ := success
    obtain ⟨found, rfl⟩ := reads_liftM_iff.mp found
    dsimp only at done
    rw [(reads_set _ _).bind_iff] at done
    obtain ⟨rfl, rfl⟩ := reads_pure_iff.mp done
    rw [String.toList_ofList]
    exact found
  · intro found
    refine ⟨_, _, reads_liftM_iff.mpr ⟨found, rfl⟩, (reads_set _ _).bind_iff.mpr ?_⟩
    rw [String.ofList_toList]
    exact reads_pure _ _

theorem QuotedText.reads {name : String} {inner : List Char}
    (quoted : QuotedText rules name.toList inner) (rest : List Char) :
    Reads (readQuoted rules) (inner ++ '"' :: rest) name rest :=
  reads_readQuoted_iff.mpr ⟨inner, quoted, rfl⟩

theorem reads_readQuoted_bind_iff {next : String → Scanner α} {value : α} :
    Reads (readQuoted rules >>= next) text value rest ↔ ∃ name inner left,
      QuotedText rules name.toList inner ∧ text = inner ++ '"' :: left ∧
        Reads (next name) left value rest := by
  rw [reads_bind_iff]
  constructor
  · intro success
    obtain ⟨name, left, named, later⟩ := success
    obtain ⟨inner, quoted, same⟩ := reads_readQuoted_iff.mp named
    exact ⟨name, inner, left, quoted, same, later⟩
  · intro given
    obtain ⟨name, inner, left, quoted, same, later⟩ := given
    exact ⟨name, left, reads_readQuoted_iff.mpr ⟨inner, quoted, same⟩, later⟩

end

end WalletTools.Json
