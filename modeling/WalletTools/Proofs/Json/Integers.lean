import WalletTools.Json.Tree
import WalletTools.Proofs.Except

/-! The integers in a value that is read: 64 bits hold each of them, with a sign if it is negative. So a
count is an integer of the value itself and never what is left of a larger one. -/
namespace WalletTools.Json

/-- Whether 64 bits hold a number, if it is an integer. -/
def Number.Fits : Number → Prop
  | .integer value => -2 ^ 63 ≤ value ∧ value < 2 ^ 64
  | .float _ => True

/-- Whether 64 bits hold every integer in a value. -/
inductive Fits : Json → Prop
  | null : Fits .null
  | boolean : Fits (.boolean value)
  | number (held : value.Fits) : Fits (.number value)
  | text : Fits (.text value)
  | array (held : ∀ element ∈ elements, Fits element) : Fits (.array elements)
  | object (held : ∀ member ∈ members, Fits member.2) : Fits (.object members)

/-! ## Results of scanners -/

/-- Whatever a scanner gives has a property. -/
def Gives (scanner : Scanner α) (property : α → Prop) : Prop :=
  ∀ text value rest, scanner.run text = .ok (value, rest) → property value

section

variable {property : β → Prop}

private theorem gives_pure {value : β} (holds : property value) : Gives (pure value) property := by
  intro _ _ _ success
  cases success
  exact holds

private theorem gives_throw {fault : Fault} : Gives (throw fault) property := fun _ _ _ => nofun

private theorem gives_bind {middle : α → Prop} {scanner : Scanner α} {next : α → Scanner β}
    (first : Gives scanner middle) (later : ∀ value, middle value → Gives (next value) property) :
    Gives (scanner >>= next) property := by
  intro text value rest success
  obtain ⟨⟨before, behind⟩, given, success⟩ := bind_eq_ok_iff.mp success
  exact later before (first _ _ _ given) _ _ _ success

private theorem gives_then {scanner : Scanner α} {next : α → Scanner β}
    (later : ∀ value, Gives (next value) property) : Gives (scanner >>= next) property := by
  intro text value rest success
  obtain ⟨⟨before, behind⟩, _, success⟩ := bind_eq_ok_iff.mp success
  exact later before _ _ _ success

end

/-! ## Numbers -/

theorem absorb_lt {number : Nat} (below : number < 2 ^ 64) (digits : List Char) :
    (absorb number digits).1 < 2 ^ 64 := by
  induction digits generalizing number with
  | nil => exact below
  | cons digit digits ih =>
    unfold absorb
    dsimp only
    split
    · exact below
    · exact ih (by omega)

theorem Numeral.number?_fits {numeral : Numeral} {number : Number}
    (found : numeral.number? = some number) : number.Fits := by
  have below := absorb_lt (by decide : 0 < 2 ^ 64) numeral.whole
  unfold Numeral.number? at found
  dsimp only at found
  split at found
  · rename_i given
    obtain ⟨_, _, _, negative⟩ := given
    cases found
    unfold Number.Fits
    dsimp only
    split
    · have small := negative ‹_›
      omega
    · omega
  · obtain ⟨double, _, rfl⟩ := Option.map_eq_some_iff.mp found
    trivial

private theorem gives_value {rules : Rules} {numeral : Numeral} :
    Gives (numeral.value rules) Number.Fits := by
  unfold Numeral.value
  split
  · rename_i found
    exact gives_pure (Numeral.number?_fits found)
  · split
    · exact gives_throw
    · exact gives_pure ⟨by decide, by decide⟩

private theorem gives_readNumber {rules : Rules} {first : Char} :
    Gives (readNumber rules first) Number.Fits := by
  unfold readNumber
  split
  · exact gives_then fun _ => gives_value
  · split
    · exact gives_then fun _ => gives_then fun _ => gives_value
    · exact gives_throw

/-! ## Values -/

private theorem gives_read {rules : Rules} (fuel levels : Nat) :
    Gives (readValue rules fuel levels) Fits ∧
    Gives (readElements rules fuel levels) (fun elements => ∀ element ∈ elements, Fits element) ∧
    Gives (readMembers rules fuel levels) fun members => ∀ member ∈ members, Fits member.2 := by
  -- The three readers call each other with less fuel, so that one induction carries all three.
  induction fuel generalizing levels with
  | zero =>
    unfold readValue readElements readMembers
    exact ⟨gives_throw, gives_throw, gives_throw⟩
  | succ fuel ih =>
    refine ⟨?value, ?elements, ?members⟩
    case value =>
      unfold readValue
      refine gives_then fun _ => gives_then fun char => ?_
      split
      · exact gives_then fun _ => gives_pure .null
      · exact gives_then fun _ => gives_pure .boolean
      · exact gives_then fun _ => gives_pure .boolean
      · exact gives_then fun _ => gives_pure .text
      · split
        · exact gives_throw
        · refine gives_then fun _ => gives_then fun _ => ?_
          split
          · exact gives_then fun _ => gives_pure (.array nofun)
          · exact gives_bind (ih _).2.1 fun _ held => gives_pure (.array held)
      · split
        · exact gives_throw
        · refine gives_then fun _ => gives_then fun _ => ?_
          split
          · exact gives_then fun _ => gives_pure (.object nofun)
          · exact gives_bind (ih _).2.2 fun _ held => gives_pure (.object held)
      · exact gives_bind gives_readNumber fun _ held => gives_pure (.number held)
    case elements =>
      unfold readElements
      refine gives_bind (ih levels).1 fun element held => gives_then fun _ => ?_
      split
      · exact gives_bind (ih levels).2.1 fun _ others =>
          gives_pure (List.forall_mem_cons.mpr ⟨held, others⟩)
      · exact gives_pure (List.forall_mem_singleton.mpr held)
    case members =>
      unfold readMembers
      refine gives_then fun _ => gives_then fun _ => gives_then fun _ => ?_
      refine gives_bind (ih levels).1 fun element held => gives_then fun _ => ?_
      split
      · exact gives_bind (ih levels).2.2 fun _ others =>
          gives_pure (List.forall_mem_cons.mpr ⟨held, others⟩)
      · exact gives_pure (List.forall_mem_singleton.mpr held)

/-- Every integer of a value that a text writes fits into 64 bits. -/
theorem fits_of_parse {text : String} {json : Json} (parsed : parse text = .ok json) : json.Fits := by
  obtain ⟨⟨value, rest⟩, success, parsed⟩ := bind_eq_ok_iff.mp parsed
  have held : Gives read Fits := gives_then fun _ => (gives_read _ _).1
  dsimp only at parsed
  split at parsed
  · cases parsed
    exact held _ _ _ success
  · cases parsed

theorem Fits.member {json member : Json} {name : String} (fits : json.Fits)
    (found : json.member? name = some member) : member.Fits := by
  cases fits with
  | object held =>
    obtain ⟨before, behind, listed, _⟩ := List.lookup_eq_some_iff.mp found
    have among : (name, member) ∈ before ++ (name, member) :: behind :=
      List.mem_append_right before List.mem_cons_self
    rw [← listed, List.mem_reverse] at among
    exact held _ among
  | _ => cases found

/-- Where 64 bits hold every integer, a count is an integer that is not negative. -/
theorem natural?_eq_some_iff {json : Json} {count : UInt64} (fits : json.Fits) :
    json.natural? = some count ↔ json = .number (.integer count.toNat) := by
  constructor
  · intro found
    cases fits with
    | number held =>
      unfold natural? Number.natural? at found
      dsimp only at found
      split at found
      · rename_i value
        split at found
        · obtain ⟨_, below⟩ := held
          have small : value.toNat < 2 ^ 64 := by omega
          have same := congrArg UInt64.toNat (Option.some.inj found)
          rw [UInt64.toNat_ofNat', Nat.mod_eq_of_lt small] at same
          rw [← same, Int.toNat_of_nonneg ‹_›]
        · cases found
      · cases found
    | _ => cases found
  · intro same
    subst same
    simp [natural?, Number.natural?]

end WalletTools.Json
