import WalletTools.Proofs.Json.Written

/-! Compact texts: a value whose numbers are counts and whose objects have their members in order is read
back from its compact text. -/
namespace WalletTools.Json

/-- Values of at most so many levels, whose numbers are counts and whose objects have their members in the
order of their names. -/
inductive Orderly : Nat → Json → Prop
  | null : Orderly levels .null
  | boolean (value : Bool) : Orderly levels (.boolean value)
  | count (count : UInt64) : Orderly levels (.number (.integer count.toNat))
  | text (value : String) : Orderly levels (.text value)
  | array (each : ∀ element ∈ elements, Orderly levels element) : Orderly (levels + 1) (.array elements)
  | object (ordered : (members.map (·.1)).Pairwise (· < ·))
      (each : ∀ member ∈ members, Orderly levels member.2) : Orderly (levels + 1) (.object members)

/-- A member of a later name is put behind the others. -/
theorem place_eq_append {name : String} {value : α} {members : List (String × α)}
    (later : ∀ member ∈ members, member.1 < name) :
    place name value members = members ++ [(name, value)] := by
  induction members with
  | nil => rfl
  | cons member members ih =>
    obtain ⟨before, rest⟩ := List.forall_mem_cons.mp later
    have order : ¬ name < member.1 ∧ name ≠ member.1 := by
      exact ⟨String.lt_asymm before, fun same => String.lt_irrefl _ (same ▸ before)⟩
    rw [place, if_neg order.1, if_neg order.2, ih rest, List.cons_append]

theorem arrange_eq {members : List (String × α)} (ordered : (members.map (·.1)).Pairwise (· < ·)) :
    arrange members = members := by
  have placed (front behind : List (String × α))
      (ordered : ((front ++ behind).map (·.1)).Pairwise (· < ·)) :
      behind.foldl (fun placed member => place member.1 member.2 placed) front = front ++ behind := by
    induction behind generalizing front with
    | nil => exact (List.append_nil _).symm
    | cons member behind ih =>
      have later (other : String × α) (known : other ∈ front) : other.1 < member.1 := by
        rw [List.map_append, List.pairwise_append] at ordered
        exact ordered.2.2 _ (List.mem_map_of_mem known) _ List.mem_cons_self
      change behind.foldl _ (place member.1 member.2 front) = _
      rw [place_eq_append later, ih _ (by rwa [List.append_assoc]), List.append_assoc, List.singleton_append]
  exact placed [] members ordered

theorem membersChars_eq_map (members : List (String × Json)) :
    membersChars members = members.map fun member => (member.1, member.2.chars) := by
  induction members with
  | nil => rfl
  | cons member members ih => rw [membersChars, ih, List.map_cons]

theorem elementsChars_eq_map (elements : List Json) : elementsChars elements = elements.map chars := by
  induction elements with
  | nil => rfl
  | cons element elements ih => rw [elementsChars, ih, List.map_cons]

theorem chars_object {members : List (String × Json)} (ordered : (members.map (·.1)).Pairwise (· < ·)) :
    (Json.object members).chars =
      enclose '{' '}' (members.map fun member => memberText member.1 member.2.chars) := by
  have same : (members.map fun member => (member.1, member.2.chars)).map (·.1) = members.map (·.1) := by
    rw [List.map_map]
    rfl
  rw [chars, membersChars_eq_map, arrange_eq (same ▸ ordered), List.map_map]
  rfl

/-- What is written keeps to the grammar. -/
theorem Orderly.valueText {json : Json} (orderly : Orderly levels json) :
    ValueText .kept levels json json.chars := by
  induction orderly with
  | null => exact ScalarText.value .null _
  | boolean value => cases value with
    | true => exact ScalarText.value .true _
    | false => exact ScalarText.value .false _
  | count count =>
    have same : (Json.number (.integer count.toNat)).chars = Nat.toDigits 10 count.toNat :=
      String.toList_ofList
    rw [same]
    exact ScalarText.value (scalarText_count count) _
  | text value => exact ScalarText.value (Kind.text.writes_chars value) _
  | @array elements levels each ih =>
    refine .inr (.array ?_)
    rw [chars, elementsChars_eq_map]
    exact enclosedText_enclose fun element known => .bare (ih element known)
  | @object members levels ordered each ih =>
    refine .inr (.object ?_)
    rw [chars_object ordered]
    exact enclosedText_enclose fun member known => memberText_written member.1 (ih member known)

theorem parse_compact {json : Json} (orderly : Orderly deepest json) : parse json.compact = .ok json := by
  unfold compact
  rw [parse_eq_ok_iff, String.toList_ofList]
  exact .bare orderly.valueText

end WalletTools.Json
