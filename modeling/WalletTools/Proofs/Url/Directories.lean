import Mathlib.Data.Bool.AllAny
import Mathlib.Data.List.DropRight
import WalletTools.Proofs.Url.Path

/-! What stands behind the directories of a path: a plain text as it is, slashes as directories without a
name, and blanks as a part of the last segment. -/
namespace WalletTools.Url

/-! ## Characters -/

/-- Characters that stand in a path as they are, and that no segment for a directory is made of. -/
def plainChars : List Char := "ABCDEFGHIJKLMNOPQRSTUVWXYZabcdefghijklmnopqrstuvwxyz0123456789-/".toList

theorem pathChar_of_plain : ∀ char ∈ plainChars, pathChar char = [char] :=
  List.all_iff_forall_prop.mp (by decide)

theorem isSlash_of_plain :
    ∀ char ∈ plainChars, SchemeKind.network.isSlash char = true → char = '/' :=
  List.all_iff_forall_prop.mp (by decide)

/-- The segments that stand for directories, in lower case. -/
private def dots : List (List Char) := ["..", ".%2e", "%2e.", "%2e%2e", ".", "%2e"].map String.toList

private theorem eq_toList_of_contains {texts : List String} {list : List Char}
    (found : texts.contains (String.ofList list) = true) : list ∈ texts.map String.toList :=
  List.mem_map.mpr ⟨_, List.contains_iff_mem.mp found, String.toList_ofList⟩

private theorem not_dots {segment : List Char} (other : segment.map Char.toLower ∉ dots) :
    isParent segment = false ∧ isSelf segment = false := by
  constructor
  · exact Bool.eq_false_iff.mpr fun found =>
      other (List.mem_append_left ([".", "%2e"].map String.toList) (eq_toList_of_contains found))
  · exact Bool.eq_false_iff.mpr fun found =>
      other (List.mem_append_right (["..", ".%2e", "%2e.", "%2e%2e"].map String.toList)
        (eq_toList_of_contains found))

private theorem mem_of_dots : ∀ segment ∈ dots, segment ⊆ ['.', '%', '2', 'e'] := by decide

private theorem any_of_dots : ∀ segment ∈ dots, segment.any (['.', '%'].contains ·) = true := by decide

theorem toLower_of_plain : ∀ char ∈ plainChars, ['.', '%'].contains char.toLower = false :=
  List.all_iff_forall_prop.mp (by decide)

/-- A plain segment stands for itself. -/
theorem named_of_plain {segment : List Char} (plain : ∀ char ∈ segment, char ∈ plainChars) :
    isParent segment = false ∧ isSelf segment = false := by
  refine not_dots fun found => ?_
  obtain ⟨lower, member, dot⟩ := List.any_eq_true.mp (any_of_dots _ found)
  obtain ⟨char, listed, rfl⟩ := List.mem_map.mp member
  exact absurd dot (Bool.eq_false_iff.mp (toLower_of_plain char (plain char listed)))

/-- A segment with a character that is in none of the segments for directories stands for itself. -/
theorem named_of_mem {segment : List Char} {char : Char} (member : char ∈ segment)
    (other : char.toLower ∉ ['.', '%', '2', 'e']) : isParent segment = false ∧ isSelf segment = false :=
  not_dots fun found => other (mem_of_dots _ found (List.mem_map_of_mem member))

private theorem toUpper_digitChar : ∀ value < 16, (Nat.digitChar value).toUpper ≠ '/' := by decide

private theorem slash_notMem_percentByte (byte : UInt8) : '/' ∉ percentByte byte := by
  have small : byte.toNat < 16 * 16 := byte.toNat_lt
  intro member
  rcases List.mem_cons.mp member with same | member
  · exact absurd same (by decide)
  · rcases List.mem_cons.mp member with same | member
    · exact toUpper_digitChar _ (Nat.div_lt_of_lt_mul small) same.symm
    · exact toUpper_digitChar _ (Nat.mod_lt _ (by decide)) (List.mem_singleton.mp member).symm

/-- Only a slash is written as one. -/
theorem eq_slash_of_mem_pathChar {char : Char} (member : '/' ∈ pathChar char) : char = '/' := by
  unfold pathChar at member
  split at member
  · obtain ⟨byte, _, inside⟩ := List.mem_flatMap.mp member
    exact absurd inside (slash_notMem_percentByte byte)
  · exact (List.mem_singleton.mp member).symm

/-! ## Directories and what follows them -/

section

variable {path back : List Char}

/-- The path begins with a slash or is empty. -/
def IsRooted (path : List Char) : Prop :=
  path = [] ∨ ∃ slash rest, path = slash :: rest ∧ SchemeKind.network.isSlash slash = true

theorem text_append (front back : List (List Char)) :
    (Path.rooted (front ++ back)).text = (Path.rooted front).text ++ (Path.rooted back).text :=
  List.flatMap_append

theorem directories_append (path back : List Char) : directories (path ++ '/' :: back) =
    descend (directories path) (splitSegments .network back) := by
  cases path with
  | nil => rfl
  | cons first rest =>
    have slash : SchemeKind.network.isSlash '/' = true := by decide
    change descend [] (splitSegments .network (rest ++ '/' :: back)) = _
    rw [splitSegments_append slash, descend_append]
    rfl

private theorem parse_cons {first : Char} (slash : SchemeKind.network.isSlash first = true)
    (rest : List Char) : Path.parse .network (first :: rest) =
      .rooted (resolve [] (splitSegments .network rest)) := by
  rw [Path.parse, if_pos slash]

/-- A path is its directories, with a slash behind them perhaps. -/
theorem text_parse (rooted : IsRooted path) :
    (Path.parse .network path).text = (Path.rooted (directories path)).text ∨
      (Path.parse .network path).text = (Path.rooted (directories path)).text ++ ['/'] := by
  rcases rooted with rfl | ⟨first, rest, rfl, slash⟩
  · exact .inr rfl
  · rw [parse_cons slash]
    rcases resolve_eq_descend [] (splitSegments .network rest) with same | same
    · exact .inl (congrArg (fun segments => (Path.rooted segments).text) same)
    · exact .inr ((congrArg (fun segments => (Path.rooted segments).text) same).trans (text_append _ _))

private theorem flatMap_pathChar {text : List Char} (plain : ∀ char ∈ text, char ∈ plainChars) :
    text.flatMap pathChar = text := by
  induction text with
  | nil => rfl
  | cons first rest ih =>
    obtain ⟨single, others⟩ := List.forall_mem_cons.mp plain
    rw [List.flatMap_cons, pathChar_of_plain first single, ih others]
    rfl

private theorem descend_plain (before : List (List Char)) (plain : ∀ char ∈ back, char ∈ plainChars) :
    descend before (splitSegments .network back) = before ++ splitSegments .network back ∧
      resolve before (splitSegments .network back) = descend before (splitSegments .network back) := by
  have inside {segment : List Char} (listed : segment ∈ splitSegments .network back) :
      ∀ char ∈ segment, char ∈ plainChars := fun char member =>
    plain char (isSlash_of_mem_splitSegments listed member).2
  have named : ∀ segment ∈ splitSegments .network back, isParent segment = false ∧ isSelf segment = false :=
    fun segment listed => named_of_plain (inside listed)
  have same : (splitSegments .network back).map (·.flatMap pathChar) = splitSegments .network back :=
    (List.map_congr_left fun segment listed => flatMap_pathChar (inside listed)).trans (List.map_id _)
  exact ⟨(descend_of_named before named).trans (by rw [same]), resolve_of_named before named⟩

theorem directories_append_plain (path : List Char) (plain : ∀ char ∈ back, char ∈ plainChars) :
    directories (path ++ '/' :: back) = directories path ++ splitSegments .network back := by
  rw [directories_append, (descend_plain _ plain).1]

/-- A plain text that is appended to a path stands behind its directories as it is. -/
theorem text_directories_append (path : List Char) (plain : ∀ char ∈ back, char ∈ plainChars) :
    (Path.rooted (directories (path ++ '/' :: back))).text =
      (Path.rooted (directories path)).text ++ '/' :: back := by
  rw [directories_append_plain path plain, text_append,
    text_splitSegments fun char member => isSlash_of_plain char (plain char member)]

theorem parse_append (rooted : IsRooted path) (plain : ∀ char ∈ back, char ∈ plainChars) :
    Path.parse .network (path ++ '/' :: back) = .rooted (directories (path ++ '/' :: back)) := by
  have slash : SchemeKind.network.isSlash '/' = true := by decide
  rw [directories_append, ← (descend_plain _ plain).2]
  rcases rooted with rfl | ⟨first, rest, rfl, single⟩
  · exact parse_cons slash back
  · rw [List.cons_append, parse_cons single, splitSegments_append slash,
      resolve_append _ _ (splitSegments_ne_nil _ _)]
    rfl

/-! ## Slashes at the end -/

/-- A text without the slashes at its end. -/
def trimmed (text : List Char) : List Char := text.rdropWhile (· = '/')

theorem trimmed_append_replicate (text : List Char) (count : Nat) :
    trimmed (text ++ List.replicate count '/') = trimmed text := by
  induction count with
  | zero => rw [List.replicate_zero, List.append_nil]
  | succ count ih =>
    rw [List.replicate_succ', ← List.append_assoc, ← ih]
    exact List.rdropWhile_concat_pos _ _ _ (by decide)

/-- Slashes at the end of a path are no part of its trimmed text. -/
theorem trimmed_directories_append_replicate (path : List Char) (count : Nat) :
    trimmed (Path.rooted (directories (path ++ List.replicate count '/'))).text =
      trimmed (Path.rooted (directories path)).text := by
  cases count with
  | zero => rw [List.replicate_zero, List.append_nil]
  | succ count =>
    have plain : ∀ char ∈ List.replicate count '/', char ∈ plainChars := fun char member =>
      List.eq_of_mem_replicate member ▸ by decide
    rw [List.replicate_succ, text_directories_append path plain]
    exact trimmed_append_replicate _ (count + 1)

theorem trimmed_parse (rooted : IsRooted path) : trimmed (Path.parse .network path).text =
    trimmed (Path.rooted (directories path)).text := by
  rcases text_parse rooted with same | same
  · rw [same]
  · rw [same]
    exact trimmed_append_replicate _ 1

private theorem slash_notMem_enter {before : List (List Char)} {segment : List Char}
    (solid : ∀ directory ∈ before, '/' ∉ directory) (single : '/' ∉ segment) :
    ∀ directory ∈ enter before segment, '/' ∉ directory := by
  unfold enter
  split
  · exact fun directory listed => solid directory (List.dropLast_subset _ listed)
  · split
    · exact solid
    · intro directory listed
      rcases List.mem_append.mp listed with listed | listed
      · exact solid directory listed
      · cases List.mem_singleton.mp listed
        intro member
        obtain ⟨char, inside, written⟩ := List.mem_flatMap.mp member
        cases eq_slash_of_mem_pathChar written
        exact single inside

private theorem slash_notMem_descend {segments before : List (List Char)}
    (solid : ∀ directory ∈ before, '/' ∉ directory) (single : ∀ segment ∈ segments, '/' ∉ segment) :
    ∀ directory ∈ descend before segments, '/' ∉ directory := by
  induction segments generalizing before with
  | nil => exact solid
  | cons segment segments ih =>
    obtain ⟨first, later⟩ := List.forall_mem_cons.mp single
    exact ih (slash_notMem_enter solid first) later

theorem slash_notMem_directories (path : List Char) : ∀ directory ∈ directories path, '/' ∉ directory := by
  cases path with
  | nil => exact nofun
  | cons first rest =>
    refine slash_notMem_descend nofun fun segment listed member => ?_
    exact absurd (isSlash_of_mem_splitSegments listed member).1 (by decide)

private theorem trimmed_concat_eq_iff (text : List Char) (char : Char) :
    trimmed (text ++ [char]) = text ++ [char] ↔ char ≠ '/' := by
  unfold trimmed
  rw [List.rdropWhile_eq_self_iff]
  simp

/-- Trimming drops nothing from the text of directories unless the last one has no name. -/
theorem trimmed_directories_eq_iff (path : List Char) :
    trimmed (Path.rooted (directories path)).text = (Path.rooted (directories path)).text ↔
      (directories path).getLast? ≠ some [] := by
  have solid := slash_notMem_directories path
  rcases List.eq_nil_or_concat (directories path) with none | ⟨front, last, found⟩
  · rw [none]
    exact iff_of_true rfl nofun
  · rw [List.concat_eq_append] at found
    rw [found] at solid
    have written : (Path.rooted (front ++ [last])).text = (Path.rooted front).text ++ '/' :: last := by
      rw [text_append]
      exact congrArg ((Path.rooted front).text ++ '/' :: ·) (List.append_nil last)
    rw [found, written, List.getLast?_concat, ne_eq, Option.some_inj]
    rcases List.eq_nil_or_concat last with rfl | ⟨more, char, rfl⟩
    · rw [trimmed_concat_eq_iff]
      exact iff_of_false (absurd rfl) (absurd rfl)
    · rw [List.concat_eq_append] at solid ⊢
      rw [← List.cons_append, ← List.append_assoc, trimmed_concat_eq_iff]
      refine iff_of_true ?_ (List.append_ne_nil_of_right_ne_nil _ (List.cons_ne_nil _ _))
      rintro rfl
      exact solid _ (List.mem_append_right _ List.mem_cons_self)
        (List.mem_append_right _ List.mem_cons_self)

/-! ## Blanks at the end -/

private theorem margin_facts : ∀ code < 0x21, (Char.ofNat code).toLower ∉ ['.', '%', '2', 'e'] ∧
    pathChar (Char.ofNat code) ≠ [] ∧ SchemeKind.network.isSlash (Char.ofNat code) = false := by decide

theorem of_isMargin {char : Char} (margin : isMargin char = true) :
    char.toLower ∉ ['.', '%', '2', 'e'] ∧ pathChar char ≠ [] ∧
      SchemeKind.network.isSlash char = false := by
  have small : char.toNat < 0x21 := Nat.lt_succ_of_le (of_decide_eq_true margin)
  have facts := margin_facts char.toNat small
  rwa [Char.ofNat_toNat] at facts

private theorem length_text_append (front back : List (List Char)) :
    (Path.rooted (front ++ back)).text.length =
      (Path.rooted front).text.length + (Path.rooted back).text.length := by
  rw [text_append, List.length_append]

private theorem length_enter_le (before : List (List Char)) (segment : List Char) :
    (Path.rooted (enter before segment)).text.length ≤
      (Path.rooted (before ++ [segment.flatMap pathChar])).text.length := by
  unfold enter
  rw [length_text_append]
  split
  · rcases List.eq_nil_or_concat before with rfl | ⟨front, last, rfl⟩
    · exact Nat.zero_le _
    · rw [List.concat_eq_append, List.dropLast_concat, length_text_append]
      omega
  · split
    · exact Nat.le_add_right _ _
    · rw [length_text_append]

/-- Blanks behind a path are part of its last segment, which they make longer. -/
theorem length_directories_append_blank {blank : List Char} (some : blank ≠ [])
    (margin : ∀ char ∈ blank, isMargin char = true) (more : path ≠ []) :
    (Path.rooted (directories path)).text.length <
      (Path.rooted (directories (path ++ blank))).text.length := by
  obtain ⟨first, rest, rfl⟩ := List.exists_cons_of_ne_nil more
  obtain ⟨char, others, rfl⟩ := List.exists_cons_of_ne_nil some
  obtain ⟨other, written, _⟩ := of_isMargin (margin char List.mem_cons_self)
  obtain ⟨before, last, front, whole⟩ := splitSegments_append_solid
    (fun char member => (of_isMargin (margin char member)).2.2) rest
  have member : char ∈ last ++ char :: others := List.mem_append_right _ List.mem_cons_self
  have shorter := length_enter_le (descend [] before) last
  change (Path.rooted (descend [] (splitSegments .network rest))).text.length <
    (Path.rooted (descend [] (splitSegments .network (rest ++ char :: others)))).text.length
  rw [front, whole, descend_append, descend_append, descend_singleton, descend_singleton,
    enter_of_named _ (named_of_mem member other)]
  refine Nat.lt_of_le_of_lt shorter ?_
  rw [length_text_append, length_text_append]
  have positive := List.length_pos_iff.mpr written
  simp only [Path.text, List.flatMap_cons, List.flatMap_nil, List.flatMap_append, List.length_append,
    List.length_cons, List.length_nil]
  omega

end

end WalletTools.Url
