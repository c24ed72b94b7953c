import WalletTools.Proofs.Url.Appended

/-! Paths that another path is appended to. The segments in front are entered like directories, those behind
stand as they are unless they stand for directories themselves. -/
namespace WalletTools.Url

/-! ## Directories -/

/-- The directory that a segment leads to from another one. -/
def enter (before : List (List Char)) (segment : List Char) : List (List Char) :=
  if isParent segment then before.dropLast
  else if isSelf segment then before
  else before ++ [segment.flatMap pathChar]

/-- The directory that segments lead to, one after the other. -/
def descend (before : List (List Char)) (segments : List (List Char)) : List (List Char) :=
  segments.foldl enter before

/-- The directories of a path that begins with a slash or is empty. -/
def directories : List Char → List (List Char)
  | [] => []
  | _ :: rest => descend [] (splitSegments .network rest)

theorem descend_append (before front back : List (List Char)) :
    descend before (front ++ back) = descend (descend before front) back := List.foldl_append

theorem descend_singleton (before : List (List Char)) (segment : List Char) :
    descend before [segment] = enter before segment := rfl

private theorem resolve_cons {rest : List (List Char)} (before : List (List Char)) (segment : List Char)
    (more : rest ≠ []) : resolve before (segment :: rest) = resolve (enter before segment) rest := by
  have behind : rest.isEmpty = false := List.isEmpty_eq_false_iff.mpr more
  rw [resolve, behind, enter]
  split
  · simp
  · split <;> simp

theorem resolve_append {back : List (List Char)} (before front : List (List Char)) (more : back ≠ []) :
    resolve before (front ++ back) = resolve (descend before front) back := by
  induction front generalizing before with
  | nil => rfl
  | cons segment front ih =>
    rw [List.cons_append, resolve_cons before segment (List.append_ne_nil_of_right_ne_nil _ more), ih]
    rfl

private theorem resolve_singleton (before : List (List Char)) (segment : List Char) :
    resolve before [segment] = enter before segment ∨
      resolve before [segment] = enter before segment ++ [[]] := by
  unfold resolve enter resolve
  split
  · exact .inr rfl
  · split
    · exact .inr rfl
    · exact .inl rfl

/-- Resolving ends in the directory, with a slash behind it if the last segment stands for a directory. -/
theorem resolve_eq_descend (before segments : List (List Char)) :
    resolve before segments = descend before segments ∨
      resolve before segments = descend before segments ++ [[]] := by
  rcases List.eq_nil_or_concat segments with rfl | ⟨front, last, rfl⟩
  · exact .inl rfl
  · rw [List.concat_eq_append, resolve_append before front (List.cons_ne_nil _ _), descend_append]
    exact resolve_singleton _ last

theorem enter_of_named {segment : List Char} (before : List (List Char))
    (named : isParent segment = false ∧ isSelf segment = false) :
    enter before segment = before ++ [segment.flatMap pathChar] := by
  rw [enter, named.1, named.2, if_neg Bool.false_ne_true, if_neg Bool.false_ne_true]

theorem descend_of_named {segments : List (List Char)} (before : List (List Char))
    (named : ∀ segment ∈ segments, isParent segment = false ∧ isSelf segment = false) :
    descend before segments = before ++ segments.map (·.flatMap pathChar) := by
  induction segments generalizing before with
  | nil => exact (List.append_nil before).symm
  | cons segment segments ih =>
    obtain ⟨single, later⟩ := List.forall_mem_cons.mp named
    change descend (enter before segment) segments = _
    rw [ih _ later, enter_of_named before single, List.map_cons, List.append_assoc]
    rfl

/-- Segments that stand for themselves end in no directory. -/
theorem resolve_of_named {segments : List (List Char)} (before : List (List Char))
    (named : ∀ segment ∈ segments, isParent segment = false ∧ isSelf segment = false) :
    resolve before segments = descend before segments := by
  induction segments generalizing before with
  | nil => rfl
  | cons segment segments ih =>
    obtain ⟨⟨parent, self⟩, later⟩ := List.forall_mem_cons.mp named
    change _ = descend (enter before segment) segments
    rw [← ih _ later, enter_of_named before ⟨parent, self⟩, resolve, parent, self,
      if_neg Bool.false_ne_true, if_neg Bool.false_ne_true]

/-! ## Segments -/

section

variable {kind : SchemeKind} {mark : Char}

theorem splitSegments_ne_nil (kind : SchemeKind) (text : List Char) : splitSegments kind text ≠ [] := by
  cases text with
  | nil => exact List.cons_ne_nil _ _
  | cons char rest =>
    rw [splitSegments]
    split
    · exact List.cons_ne_nil _ _
    · split <;> exact List.cons_ne_nil _ _

private theorem splitSegments_slash (slash : kind.isSlash mark = true) (rest : List Char) :
    splitSegments kind (mark :: rest) = [] :: splitSegments kind rest := by
  rw [splitSegments]
  split
  · exact absurd ‹_› (splitSegments_ne_nil kind rest)
  · rename_i found
    rw [if_pos slash, found]

private theorem splitSegments_solid {rest segment : List Char} {more : List (List Char)}
    (solid : kind.isSlash mark = false)
    (found : splitSegments kind rest = segment :: more) :
    splitSegments kind (mark :: rest) = (mark :: segment) :: more := by
  rw [splitSegments, found]
  exact if_neg (Bool.eq_false_iff.mp solid)

theorem splitSegments_append (slash : kind.isSlash mark = true) (front back : List Char) :
    splitSegments kind (front ++ mark :: back) = splitSegments kind front ++ splitSegments kind back := by
  induction front with
  | nil => exact splitSegments_slash slash back
  | cons first rest ih =>
    rw [List.cons_append]
    cases solid : kind.isSlash first with
    | true => rw [splitSegments_slash solid, splitSegments_slash solid, ih, List.cons_append]
    | false =>
      obtain ⟨segment, more, found⟩ := List.exists_cons_of_ne_nil (splitSegments_ne_nil kind rest)
      rw [found, List.cons_append] at ih
      rw [splitSegments_solid solid ih, splitSegments_solid solid found, List.cons_append]

/-- Without a slash in it a text belongs to the last segment in front of it. -/
theorem splitSegments_append_solid {back : List Char} (solid : ∀ char ∈ back, kind.isSlash char = false)
    (front : List Char) : ∃ before last, splitSegments kind front = before ++ [last] ∧
      splitSegments kind (front ++ back) = before ++ [last ++ back] := by
  induction front with
  | nil =>
    refine ⟨[], [], rfl, ?_⟩
    induction back with
    | nil => rfl
    | cons first rest ih =>
      obtain ⟨single, others⟩ := List.forall_mem_cons.mp solid
      exact splitSegments_solid single (ih others)
  | cons first rest ih =>
    obtain ⟨before, last, found, also⟩ := ih
    rw [List.cons_append]
    cases single : kind.isSlash first with
    | true =>
      rw [splitSegments_slash single, splitSegments_slash single, found, also]
      exact ⟨[] :: before, last, rfl, rfl⟩
    | false =>
      cases before with
      | nil => exact ⟨[], first :: last, splitSegments_solid single found, splitSegments_solid single also⟩
      | cons segment before =>
        exact ⟨(first :: segment) :: before, last, splitSegments_solid single found,
          splitSegments_solid single also⟩

theorem isSlash_of_mem_splitSegments {text segment : List Char} (listed : segment ∈ splitSegments kind text)
    {char : Char} (member : char ∈ segment) : kind.isSlash char = false ∧ char ∈ text := by
  induction text generalizing segment with
  | nil =>
    rw [List.mem_singleton.mp listed] at member
    cases member
  | cons first rest ih =>
    cases solid : kind.isSlash first with
    | true =>
      rw [splitSegments_slash solid] at listed
      rcases List.mem_cons.mp listed with rfl | later
      · cases member
      · obtain ⟨single, found⟩ := ih later member
        exact ⟨single, List.mem_cons_of_mem _ found⟩
    | false =>
      obtain ⟨head, more, found⟩ := List.exists_cons_of_ne_nil (splitSegments_ne_nil kind rest)
      rw [splitSegments_solid solid found] at listed
      rw [found] at ih
      rcases List.mem_cons.mp listed with rfl | later
      · rcases List.mem_cons.mp member with rfl | inner
        · exact ⟨solid, List.mem_cons_self⟩
        · obtain ⟨single, found⟩ := ih List.mem_cons_self inner
          exact ⟨single, List.mem_cons_of_mem _ found⟩
      · obtain ⟨single, found⟩ := ih (List.mem_cons_of_mem _ later) member
        exact ⟨single, List.mem_cons_of_mem _ found⟩

/-- A text whose only slashes are plain ones is put together again from its segments. -/
theorem text_splitSegments {text : List Char} (plain : ∀ char ∈ text, kind.isSlash char = true → char = '/') :
    (Path.rooted (splitSegments kind text)).text = '/' :: text := by
  induction text with
  | nil => rfl
  | cons first rest ih =>
    obtain ⟨same, others⟩ := List.forall_mem_cons.mp plain
    have later := ih others
    cases solid : kind.isSlash first with
    | true =>
      rw [splitSegments_slash solid, same solid]
      change '/' :: (Path.rooted (splitSegments kind rest)).text = _
      rw [later]
    | false =>
      obtain ⟨segment, more, found⟩ := List.exists_cons_of_ne_nil (splitSegments_ne_nil kind rest)
      rw [splitSegments_solid solid found]
      rw [found] at later
      change '/' :: (segment ++ (Path.rooted more).text) = _ at later
      change '/' :: first :: (segment ++ (Path.rooted more).text) = _
      rw [(List.cons.inj later).2]

end

end WalletTools.Url
