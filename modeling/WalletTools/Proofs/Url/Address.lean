import WalletTools.Proofs.Url.Joined

/-! Addresses that a path is appended to. A URL is read from an address without the blanks at its end, a
path is appended to all of its text; what stands behind the authority is compared for both. -/
namespace WalletTools.Url

/-! ## Blanks -/

/-- The blanks at the end of a text that are kept where something stands behind them. -/
def trailingBlanks (text : String) : List Char :=
  ((text.toList.dropWhile isMargin).rtakeWhile isMargin).filter fun char => !isBreak char

theorem cleanFront_eq (text : String) : cleanFront text = clean text ++ trailingBlanks text := by
  have whole := List.rdropWhile_append_rtakeWhile (p := isMargin) (l := text.toList.dropWhile isMargin)
  exact (congrArg (List.filter fun char => !isBreak char) whole.symm).trans (List.filter_append _ _)

theorem isMargin_of_mem_trailingBlanks {text : String} {char : Char} (member : char ∈ trailingBlanks text) :
    isMargin char = true :=
  List.mem_takeWhile_imp (List.mem_reverse.mp (List.mem_filter.mp member).1)

section

variable {text base : String} {count : Nat}

theorem cleanFront_append_slashes (written : text.toList = base.toList ++ List.replicate count '/') :
    cleanFront text = cleanFront base ++ List.replicate count '/' := by
  unfold cleanFront
  rw [written]
  cases count with
  | zero => rw [List.replicate_zero, List.append_nil, List.append_nil]
  | succ count =>
    have slash : isMargin '/' = false := by decide
    have kept : (List.replicate (count + 1) '/').filter (fun char => !isBreak char) =
        List.replicate (count + 1) '/' := List.filter_replicate_of_pos (by decide)
    rw [List.replicate_succ, dropWhile_append_mark slash, ← List.replicate_succ, List.filter_append, kept]

/-- A slash at the end leaves no blanks there. -/
theorem trailingBlanks_append_slash (written : text.toList = base.toList ++ List.replicate (count + 1) '/') :
    trailingBlanks text = [] := by
  have slash : isMargin '/' = false := by decide
  unfold trailingBlanks
  rw [written, List.replicate_succ, dropWhile_append_mark slash, ← List.replicate_succ,
    List.replicate_succ', ← List.append_assoc, List.rtakeWhile_concat_neg _ _ _ (by decide)]
  rfl

end

private theorem margin_of_plain : ∀ char ∈ plainChars, isMargin char = false ∧ isBreak char = false :=
  List.all_iff_forall_prop.mp (by decide)

/-- In front of a plain text nothing but the blanks at the start is dropped. -/
theorem clean_append_plain {back : List Char} (base : String) (plain : ∀ char ∈ back, char ∈ plainChars) :
    clean (base ++ String.ofList ('/' :: back)) = cleanFront base ++ '/' :: back := by
  have margin : isMargin '/' = false := by decide
  have all : ∀ char ∈ '/' :: back, char ∈ plainChars := List.forall_mem_cons.mpr ⟨by decide, plain⟩
  have whole : (base.toList.dropWhile isMargin ++ '/' :: back).rdropWhile isMargin =
      base.toList.dropWhile isMargin ++ '/' :: back := by
    refine List.rdropWhile_eq_self_iff.mpr fun some found => ?_
    rw [List.getLast_append_of_ne_nil _ (List.cons_ne_nil _ _)] at found
    rw [(margin_of_plain _ (all _ (List.getLast_mem _))).1] at found
    cases found
  have kept : ('/' :: back).filter (fun char => !isBreak char) = '/' :: back :=
    List.filter_eq_self.mpr fun char member => by rw [(margin_of_plain char (all char member)).2]; rfl
  change (((base ++ String.ofList ('/' :: back)).toList.dropWhile isMargin).rdropWhile isMargin).filter _ = _
  rw [String.toList_append, String.toList_ofList, dropWhile_append_mark margin, whole,
    List.filter_append, kept]
  rfl

/-! ## Sections -/

/-- The authority of a text of the network behind its scheme. -/
def authorityOf (rest : List Char) : List Char :=
  (rest.dropWhile (SchemeKind.network.isSlash ·)).takeWhile inAuthority

/-- What follows the authority. -/
def behindAuthority (rest : List Char) : List Char :=
  (rest.dropWhile (SchemeKind.network.isSlash ·)).dropWhile inAuthority

/-- What follows a text with a scheme follows what the scheme leaves of it. -/
theorem splitScheme_append_of_some {front rest : List Char} {scheme : String}
    (found : splitScheme front = some (scheme, rest)) (back : List Char) :
    splitScheme (front ++ back) = some (scheme, rest ++ back) := by
  have stops : isSchemeChar ':' = false := by decide
  rw [splitScheme_eq] at found
  split at found
  · rename_i alpha
    unfold splitColon at found
    split at found
    · rename_i later colon
      cases found
      have whole := List.takeWhile_append_dropWhile (p := isSchemeChar) (l := front)
      rw [colon] at whole
      have head : (front ++ back).head?.any Char.isAlpha = true := by
        cases front with
        | nil => cases alpha
        | cons first more => exact alpha
      have taken : (front ++ back).takeWhile isSchemeChar = front.takeWhile isSchemeChar := by
        rw [← whole, List.append_assoc, List.cons_append, takeWhile_append_mark stops,
          takeWhile_append_mark stops]
      have dropped : (front ++ back).dropWhile isSchemeChar = ':' :: (rest ++ back) := by
        rw [List.dropWhile_append, colon]
        rfl
      rw [splitScheme_eq, if_pos head, taken, dropped]
      rfl
    · cases found
  · cases found

/-- Slashes behind a text with a scheme stand behind what the scheme leaves of it. -/
theorem splitScheme_slashes {front rest : List Char} {scheme : String} {count : Nat}
    (found : splitScheme (front ++ List.replicate count '/') = some (scheme, rest)) :
    ∃ before, splitScheme front = some (scheme, before) ∧ rest = before ++ List.replicate count '/' := by
  cases count with
  | zero =>
    rw [List.replicate_zero, List.append_nil] at found
    exact ⟨rest, found, (List.append_nil rest).symm⟩
  | succ count =>
    rw [List.replicate_succ, splitScheme_append] at found
    obtain ⟨⟨_, before⟩, split, same⟩ := Option.map_eq_some_iff.mp found
    cases same
    exact ⟨before, split, rfl⟩

section

variable {rest : List Char}

/-- A blank ends no authority. -/
theorem inAuthority_of_isMargin {char : Char} (margin : isMargin char = true) : inAuthority char = true := by
  obtain ⟨question, hash⟩ := noMark_of_isMargin margin
  unfold inAuthority SchemeKind.endsAuthority
  rw [(of_isMargin margin).2.2, decide_eq_false question, decide_eq_false hash]
  rfl

/-- A path stands behind what follows the authority, which ends in front of it. -/
theorem behindAuthority_append (some : rest.dropWhile (SchemeKind.network.isSlash ·) ≠ [])
    (back : List Char) : behindAuthority (rest ++ '/' :: back) = behindAuthority rest ++ '/' :: back := by
  have stops : inAuthority '/' = false := by decide
  unfold behindAuthority
  rw [List.dropWhile_append, if_neg (List.isEmpty_iff.not.mpr some), dropWhile_append_mark stops]

/-- Characters of an authority stand behind what follows it, or are part of it. -/
theorem behindAuthority_append_inside {back : List Char} (inside : ∀ char ∈ back, inAuthority char = true)
    (some : rest.dropWhile (SchemeKind.network.isSlash ·) ≠ []) :
    behindAuthority (rest ++ back) =
      if behindAuthority rest = [] then [] else behindAuthority rest ++ back := by
  unfold behindAuthority
  rw [List.dropWhile_append, if_neg (List.isEmpty_iff.not.mpr some), List.dropWhile_append,
    List.dropWhile_eq_nil_iff.mpr inside]
  simp only [List.isEmpty_iff]

/-- Slashes make no authority, so that they stand behind one if there is one. -/
theorem behindAuthority_append_slashes {count : Nat}
    (some : authorityOf (rest ++ List.replicate count '/') ≠ []) :
    rest.dropWhile (SchemeKind.network.isSlash ·) ≠ [] ∧
      behindAuthority (rest ++ List.replicate count '/') =
        behindAuthority rest ++ List.replicate count '/' := by
  have left : rest.dropWhile (SchemeKind.network.isSlash ·) ≠ [] := by
    intro none
    refine some ?_
    have slashes : (List.replicate count '/').dropWhile (SchemeKind.network.isSlash ·) = [] :=
      List.dropWhile_eq_nil_iff.mpr fun char member => List.eq_of_mem_replicate member ▸ by decide
    rw [authorityOf, List.dropWhile_append, none, List.isEmpty_nil, if_pos rfl, slashes]
    rfl
  refine ⟨left, ?_⟩
  cases count with
  | zero => rw [List.replicate_zero, List.append_nil, List.append_nil]
  | succ count => exact behindAuthority_append left _

theorem some_of_authorityOf (some : authorityOf rest ≠ []) :
    rest.dropWhile (SchemeKind.network.isSlash ·) ≠ [] := by
  intro none
  rw [authorityOf, none] at some
  exact some rfl

end

/-- What follows the authority begins with a slash if it is not empty. -/
theorem isRooted_behindAuthority {rest : List Char} (plain : IsPathText (behindAuthority rest)) :
    IsRooted (behindAuthority rest) := by
  cases found : behindAuthority rest with
  | nil => exact .inl rfl
  | cons first more =>
    rw [found] at plain
    obtain ⟨question, hash⟩ := plain first List.mem_cons_self
    have stops : inAuthority first = false := by
      have head := List.head?_dropWhile_not inAuthority (rest.dropWhile (SchemeKind.network.isSlash ·))
      rw [← behindAuthority, found] at head
      exact head
    unfold inAuthority SchemeKind.endsAuthority at stops
    rw [decide_eq_false question, decide_eq_false hash, Bool.or_false, Bool.or_false,
      Bool.not_eq_false'] at stops
    exact .inr ⟨first, more, rfl, stops⟩

/-! ## Authorities -/

private theorem splitUser_subset {authority user rest : List Char} {ended : Bool}
    (found : splitUser authority ended = .ok (user, rest)) : rest ⊆ authority := by
  unfold splitUser at found
  split at found
  · dsimp only at found
    split at found
    · cases found
    · cases found
      exact fun char member => List.mem_reverse.mp (List.takeWhile_subset _ (List.mem_reverse.mp member))
  · cases found
    exact List.Subset.refl _

private theorem splitPort_subset (inside : Bool) (rest : List Char) :
    (splitPort inside rest).2.getD [] ⊆ rest := by
  induction rest generalizing inside with
  | nil => exact List.Subset.refl _
  | cons first rest ih =>
    unfold splitPort
    split
    · exact List.subset_cons_self _ _
    · exact List.Subset.trans (ih _) (List.subset_cons_self _ _)

/-- An authority without backslashes leaves nothing to the path, and it is not empty. -/
theorem of_parseAuthority {authority behind : List Char} {ended : Bool} {host : Host} {port? : Option Nat}
    (solid : '\\' ∉ authority) (found : parseAuthority .network authority ended = .ok (host, port?, behind)) :
    authority ≠ [] ∧ behind = [] := by
  unfold parseAuthority at found
  obtain ⟨⟨user, rest⟩, split, found⟩ := bind_eq_ok_iff.mp found
  dsimp only at found
  obtain ⟨named, found⟩ := refuse_eq_ok_iff.mp found
  obtain ⟨_, _, found⟩ := bind_eq_ok_iff.mp found
  obtain ⟨_, found⟩ := refuse_eq_ok_iff.mp found
  obtain ⟨_, _, found⟩ := bind_eq_ok_iff.mp found
  obtain ⟨_, done⟩ := refuse_eq_ok_iff.mp found
  cases done
  have inside := splitUser_subset split
  constructor
  · rintro rfl
    cases List.subset_nil.mp inside
    exact named rfl
  · refine List.dropWhile_eq_nil_iff.mpr fun char member => decide_eq_true ?_
    rintro rfl
    exact solid (inside (splitPort_subset false rest member))

/-- The path of a URL of the network is what follows its authority, up to the first mark. -/
theorem parse_network {text : String} {url : Url} (parsed : parse text = .ok url)
    (network : SchemeKind.of url.scheme = .network) : ∃ rest,
      splitScheme (clean text) = some (url.scheme, rest) ∧ authorityOf rest ≠ [] ∧
        url.path = .parse .network (splitTail (behindAuthority rest)).1 := by
  unfold parse at parsed
  split at parsed
  · cases parsed
  · rename_i scheme rest found
    split at parsed
    · have same := parseHosted_scheme parsed
      unfold parseHosted at parsed
      obtain ⟨⟨host, port?, behind⟩, found, done⟩ := bind_eq_ok_iff.mp parsed
      have solid : '\\' ∉ authorityOf rest := fun member =>
        absurd (List.mem_takeWhile_imp member) (by decide)
      obtain ⟨named, rfl⟩ := of_parseAuthority solid found
      cases done
      exact ⟨rest, ‹_›, named, rfl⟩
    · rename_i file
      rw [parseFile_scheme parsed] at network
      cases network
    · rename_i other
      rw [parseOther_scheme parsed, other] at network
      cases network

/-! ## Paths -/

/-- The path of an address as it stands in front of what is appended to it. -/
def keptPath (base : String) : List Char :=
  match splitScheme (cleanFront base) with
  | some (_, rest) => behindAuthority rest
  | none => []

/-- Slashes at the end of an address have been dropped from what stands in front of an appended path, blanks
at its end have not. Blanks are part of the path if there is one, and of the authority if not. -/
private theorem exists_front {front whole blank rest : List Char} {scheme : String} {count : Nat}
    (cleaned : front ++ List.replicate count '/' = whole ++ blank) (single : blank ≠ [] → count = 0)
    (margin : ∀ char ∈ blank, isMargin char = true) (split : splitScheme whole = some (scheme, rest))
    (named : authorityOf rest ≠ []) : ∃ before behind, splitScheme front = some (scheme, before) ∧
      before.dropWhile (SchemeKind.network.isSlash ·) ≠ [] ∧
      behindAuthority rest = behindAuthority behind ++ List.replicate count '/' ∧
      behindAuthority before =
        if behindAuthority behind = [] then [] else behindAuthority behind ++ blank := by
  by_cases ended : blank = []
  · -- The whole address is read as a URL, the slashes at its end included.
    subst ended
    rw [List.append_nil] at cleaned
    rw [← cleaned] at split
    obtain ⟨before, found, rfl⟩ := splitScheme_slashes split
    obtain ⟨left, slashes⟩ := behindAuthority_append_slashes named
    refine ⟨before, before, found, left, slashes, ?_⟩
    rw [List.append_nil]
    split
    · assumption
    · rfl
  · -- Slashes in front of the blanks are not at the end of the text, so that none has been dropped.
    rw [single ended, List.replicate_zero, List.append_nil] at cleaned
    have left := some_of_authorityOf named
    refine ⟨rest ++ blank, rest, cleaned ▸ splitScheme_append_of_some split blank, ?_, ?_,
      behindAuthority_append_inside (fun char member => inAuthority_of_isMargin (margin char member)) left⟩
    · rw [List.dropWhile_append, if_neg (List.isEmpty_iff.not.mpr left)]
      exact List.append_ne_nil_of_left_ne_nil left _
    · rw [single ended, List.replicate_zero, List.append_nil]

section

variable {address base : String} {url other : Url} {count : Nat} {back : List Char}

/-- The path of an address and that of a path appended to it without its slashes begin with the same
characters. What can stand between them is the blanks that the address ends in. -/
theorem paths_of_parse (written : address.toList = base.toList ++ List.replicate count '/')
    (parsed : parse address = .ok url) (network : SchemeKind.of url.scheme = .network)
    (plain : ∀ char ∈ back, char ∈ plainChars)
    (joined : parse (base ++ String.ofList ('/' :: back)) = .ok other)
    (also : SchemeKind.of other.scheme = .network) : ∃ rest,
      url.path = .parse .network (splitTail (behindAuthority rest ++ List.replicate count '/')).1 ∧
        other.path = .parse .network (splitTail (keptPath base ++ '/' :: back)).1 ∧
        keptPath base = (if behindAuthority rest = [] then []
          else behindAuthority rest ++ trailingBlanks address) := by
  have cleaned : cleanFront base ++ List.replicate count '/' = clean address ++ trailingBlanks address :=
    (cleanFront_append_slashes written).symm.trans (cleanFront_eq address)
  have single : trailingBlanks address ≠ [] → count = 0 := by
    intro blanks
    cases count with
    | zero => rfl
    | succ count => exact absurd (trailingBlanks_append_slash written) blanks
  obtain ⟨_, split, named, path⟩ := parse_network parsed network
  obtain ⟨before, rest, found, left, slashes, blanks⟩ :=
    exists_front cleaned single (fun _ => isMargin_of_mem_trailingBlanks) split named
  obtain ⟨_, whole, _, joinedPath⟩ := parse_network joined also
  rw [clean_append_plain base plain, splitScheme_append, found, Option.map_some, Option.some_inj,
    Prod.mk.injEq] at whole
  have kept : keptPath base = behindAuthority before := by rw [keptPath, found]
  refine ⟨rest, by rw [path, slashes], ?_, by rw [kept, blanks]⟩
  rw [joinedPath, ← whole.2, behindAuthority_append left, kept]

end

end WalletTools.Url
