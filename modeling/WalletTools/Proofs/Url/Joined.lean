import WalletTools.Proofs.Url.Directories

/-! Paths that a plain text is appended to, as a URL reads them: up to the first mark of a query or a
fragment. -/
namespace WalletTools.Url

/-! ## Queries and fragments -/

/-- The text holds no mark of a query or a fragment. -/
def IsPathText (text : List Char) : Prop := ∀ char ∈ text, char ≠ '?' ∧ char ≠ '#'

private theorem splitTail_fst (text : List Char) :
    (splitTail text).1 = text.takeWhile fun char => char ≠ '?' ∧ char ≠ '#' := by
  change (text.takeWhile _).takeWhile _ = _
  rw [List.takeWhile_takeWhile]
  simp only [decide_eq_true_eq]

theorem splitTail_of_isPathText {text : List Char} (plain : IsPathText text) : (splitTail text).1 = text := by
  rw [splitTail_fst, List.takeWhile_eq_self_iff]
  exact fun char member => decide_eq_true (plain char member)

/-- Behind a mark nothing belongs to the path. -/
theorem splitTail_append_of_marked {front : List Char} (marked : ¬ IsPathText front) (back : List Char) :
    (splitTail (front ++ back)).1 = (splitTail front).1 := by
  rw [splitTail_fst, splitTail_fst, List.takeWhile_append, if_neg]
  intro whole
  refine marked fun char member => ?_
  have same := (List.takeWhile_prefix _).eq_of_length whole
  exact of_decide_eq_true (List.takeWhile_eq_self_iff.mp same char member)

theorem noMark_of_plain : ∀ char ∈ plainChars, char ≠ '?' ∧ char ≠ '#' :=
  List.all_iff_forall_prop.mp (by decide)

theorem noMark_of_isMargin {char : Char} (margin : isMargin char = true) : char ≠ '?' ∧ char ≠ '#' := by
  constructor
  · rintro rfl
    cases margin
  · rintro rfl
    cases margin

theorem isPathText_append_iff {front back : List Char} :
    IsPathText (front ++ back) ↔ IsPathText front ∧ IsPathText back := List.forall_mem_append

/-! ## Joined paths -/

section

variable {path blank back : List Char}

private theorem trimmed_append_ne {text : List Char} {char : Char} (member : char ∈ back)
    (other : char ≠ '/') : text ≠ trimmed text ++ '/' :: back := by
  intro same
  have whole : trimmed text ++ text.rtakeWhile (· = '/') = text := List.rdropWhile_append_rtakeWhile
  have slashes := List.append_cancel_left (whole.trans same)
  have listed : char ∈ text.rtakeWhile (· = '/') := slashes ▸ List.mem_cons_of_mem _ member
  have slash := List.mem_rtakeWhile_imp (p := fun char : Char => decide (char = '/')) listed
  exact other (of_decide_eq_true slash)

private theorem IsRooted.append_replicate (rooted : IsRooted path) (count : Nat) :
    IsRooted (path ++ List.replicate count '/') := by
  rcases rooted with rfl | ⟨first, rest, rfl, slash⟩
  · cases count with
    | zero => exact .inl rfl
    | succ count => exact .inr ⟨'/', _, List.nil_append _, by decide⟩
  · exact .inr ⟨first, _, List.cons_append, slash⟩

private theorem IsRooted.append (rooted : IsRooted path) (some : path ≠ []) (back : List Char) :
    IsRooted (path ++ back) := by
  rcases rooted with rfl | ⟨first, rest, rfl, slash⟩
  · exact absurd rfl some
  · exact .inr ⟨first, _, List.cons_append, slash⟩

/-- Behind a path without marks a plain text stands as it is, whatever slashes are trimmed. -/
private theorem joined_eq_iff {front : List Char} {count : Nat} (plain : IsPathText path)
    (rooted : IsRooted path) (plainFront : IsPathText front) (rootedFront : IsRooted front)
    (ordinary : ∀ char ∈ back, char ∈ plainChars) :
    (Path.parse .network (splitTail (front ++ '/' :: back)).1).text =
        trimmed (Path.parse .network (splitTail (path ++ List.replicate count '/')).1).text ++ '/' :: back ↔
      (Path.rooted (directories front)).text = trimmed (Path.rooted (directories path)).text := by
  have slashes : IsPathText (List.replicate count '/') := fun char member =>
    List.eq_of_mem_replicate member ▸ by decide
  have behind : IsPathText ('/' :: back) := List.forall_mem_cons.mpr ⟨by decide, fun char member =>
    noMark_of_plain char (ordinary char member)⟩
  rw [splitTail_of_isPathText (isPathText_append_iff.mpr ⟨plainFront, behind⟩),
    splitTail_of_isPathText (isPathText_append_iff.mpr ⟨plain, slashes⟩),
    parse_append rootedFront ordinary, text_directories_append front ordinary,
    trimmed_parse (rooted.append_replicate count), trimmed_directories_append_replicate]
  exact List.append_left_inj _

/-- What is appended to a path with blanks behind it leads to the path of a URL, trimmed, and what is appended
just where no mark, no blanks and no directory without a name stand in between. -/
theorem joined_iff {front : List Char} (count : Nat) (rooted : IsPathText path → IsRooted path)
    (margin : ∀ char ∈ blank, isMargin char = true) (ordinary : ∀ char ∈ back, char ∈ plainChars)
    (solid : ∃ char ∈ back, char ≠ '/') (kept : front = if path = [] then [] else path ++ blank) :
    (Path.parse .network (splitTail (front ++ '/' :: back)).1).text =
        trimmed (Path.parse .network (splitTail (path ++ List.replicate count '/')).1).text ++ '/' :: back ↔
      IsPathText front ∧ (front = [] ∨ blank = []) ∧ (directories front).getLast? ≠ some [] := by
  by_cases none : path = []
  · rw [if_pos none] at kept
    subst none kept
    have plain : IsPathText [] := fun _ member => absurd member List.not_mem_nil
    rw [joined_eq_iff plain (.inl rfl) plain (.inl rfl) ordinary]
    exact iff_of_true rfl ⟨plain, .inl rfl, nofun⟩
  · rw [if_neg none] at kept
    subst kept
    by_cases plain : IsPathText path
    · have blanks : IsPathText blank := fun char member => noMark_of_isMargin (margin char member)
      rw [joined_eq_iff plain (rooted plain) (isPathText_append_iff.mpr ⟨plain, blanks⟩)
        ((rooted plain).append none blank) ordinary]
      by_cases ended : blank = []
      · subst ended
        rw [List.append_nil, eq_comm, trimmed_directories_eq_iff]
        exact ⟨fun named => ⟨plain, .inr rfl, named⟩, fun given => given.2.2⟩
      · -- The blanks make the last segment longer, whatever is trimmed from it.
        refine iff_of_false (fun same => ?_) fun given => ?_
        · have longer := length_directories_append_blank ended margin none
          have shorter := (List.rdropWhile_prefix (· = '/') (Path.rooted (directories path)).text).length_le
          rw [same] at longer
          exact absurd longer (Nat.not_lt.mpr shorter)
        · exact given.2.1.elim (List.append_ne_nil_of_left_ne_nil none _) ended
    · -- Behind a mark nothing belongs to the path, neither slashes nor what is appended.
      obtain ⟨char, member, other⟩ := solid
      rw [List.append_assoc, splitTail_append_of_marked plain, splitTail_append_of_marked plain]
      exact iff_of_false (trimmed_append_ne member other) fun given =>
        plain (isPathText_append_iff.mp given.1).1

end

end WalletTools.Url
