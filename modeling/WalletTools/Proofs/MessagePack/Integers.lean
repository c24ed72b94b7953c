import WalletTools.Proofs.MessagePack.Format

/-! Integers that are not negative, as they are read: from a small marker itself, or from the number
behind a marker, whether it is written without a sign or with one. -/
namespace WalletTools.MessagePack

private theorem signed_iff {number : Nat} {marker : UInt8} {back : Bytes} :
    Signed number (marker :: back) ↔ ∃ width, (marker, width) ∈ Family.signed ∧
      2 * number < 256 ^ width ∧ Digits width number back := by
  constructor
  · intro stands
    rcases stands with ⟨small, written⟩ | ⟨small, written⟩ | ⟨small, written⟩ | ⟨small, written⟩
    · exact ⟨1, by decide, by omega, written⟩
    · exact ⟨2, by decide, by omega, written⟩
    · exact ⟨4, by decide, by omega, written⟩
    · exact ⟨8, by decide, by omega, written⟩
  · intro stands
    obtain ⟨width, listed, small, written⟩ := stands
    simp only [Family.signed, List.mem_cons, Prod.mk.injEq, List.not_mem_nil, or_false] at listed
    rcases listed with ⟨rfl, rfl⟩ | ⟨rfl, rfl⟩ | ⟨rfl, rfl⟩ | ⟨rfl, rfl⟩
    · exact .one (by omega) written
    · exact .two (by omega) written
    · exact .four (by omega) written
    · exact .eight (by omega) written

private theorem unsigned_iff {number : Nat} {marker : UInt8} {back : Bytes} :
    Unsigned number (marker :: back) ↔ (marker < 0x80 ∧ marker.toNat = number ∧ back = []) ∨
      ∃ width, (marker, width) ∈ Family.uint.wide ∧ Digits width number back := by
  rw [← Family.uint_header]
  constructor
  · generalize same : marker :: back = piece
    intro stands
    rcases stands with small | ⟨listed, written⟩
    · obtain ⟨rfl, rfl⟩ := List.cons.inj same
      have small : number < 128 := small
      have value : (UInt8.ofNat (0 + number)).toNat = number := by
        rw [Nat.zero_add]
        exact UInt8.toNat_ofNat_of_lt' (Nat.lt_trans small (by decide))
      exact .inl ⟨UInt8.lt_iff_toNat_lt.mpr (value.symm ▸ small), value, rfl⟩
    · obtain ⟨rfl, rfl⟩ := List.cons.inj same
      exact .inr ⟨_, listed, written⟩
  · intro stands
    rcases stands with ⟨small, rfl, rfl⟩ | ⟨width, listed, written⟩
    · have plain : Family.uint.Header marker.toNat [UInt8.ofNat (0 + marker.toNat)] := .fix small
      simpa using plain
    · exact .wide listed written

private theorem uint_markers : ∀ entry ∈ Family.uint.wide,
    ¬ entry.1 < 0x80 ∧ ¬ 0xe0 ≤ entry.1 ∧ 256 ^ entry.2 ≤ 2 ^ 64 ∧
      Family.signed.lookup entry.1 = none := by decide

private theorem signed_markers : ∀ entry ∈ Family.signed,
    ¬ entry.1 < 0x80 ∧ ¬ 0xe0 ≤ entry.1 ∧ 256 ^ entry.2 ≤ 2 ^ 64 := by decide

private theorem lookup_uint {marker : UInt8} {width : Nat} :
    Family.uint.wide.lookup marker = some width ↔ (marker, width) ∈ Family.uint.wide :=
  lookup_eq_some Family.uint_sound.distinct

private theorem lookup_signed {marker : UInt8} {width : Nat} :
    Family.signed.lookup marker = some width ↔ (marker, width) ∈ Family.signed :=
  lookup_eq_some (by decide)

section Markers

variable {marker : UInt8} {number : UInt64} {back : Bytes} {width : Nat}

private theorem uintForm_iff : UIntForm number (marker :: back) ↔
    (marker < 0x80 ∧ marker.toNat = number.toNat ∧ back = []) ∨
    (∃ width, (marker, width) ∈ Family.uint.wide ∧ Digits width number.toNat back) ∨
    ∃ width, (marker, width) ∈ Family.signed ∧ 2 * number.toNat < 256 ^ width ∧
      Digits width number.toNat back := by
  rw [UIntForm, unsigned_iff, signed_iff, or_assoc]

private theorem uintForm_small (small : marker < 0x80) :
    UIntForm number (marker :: back) ↔ number = marker.toUInt64 ∧ back = [] := by
  rw [uintForm_iff]
  constructor
  · intro stands
    rcases stands with ⟨_, same, rfl⟩ | ⟨width, listed, _⟩ | ⟨width, listed, _⟩
    · exact ⟨UInt64.toNat_inj.mp same.symm, rfl⟩
    · exact absurd small (uint_markers _ listed).1
    · exact absurd small (signed_markers _ listed).1
  · intro stands
    obtain ⟨rfl, rfl⟩ := stands
    exact .inl ⟨small, rfl, rfl⟩

private theorem uintForm_uint (listed : (marker, width) ∈ Family.uint.wide) :
    UIntForm number (marker :: back) ↔
      ∃ value, Digits width value back ∧ number = UInt64.ofNat value := by
  obtain ⟨large, _, fits, unsigned⟩ := uint_markers _ listed
  rw [uintForm_iff]
  constructor
  · intro stands
    rcases stands with ⟨small, _⟩ | ⟨other, member, written⟩ | ⟨other, member, _⟩
    · exact absurd small large
    · rw [← lookup_uint] at listed member
      rw [listed] at member
      cases member
      exact ⟨_, written, UInt64.ofNat_toNat.symm⟩
    · rw [← lookup_signed, unsigned] at member
      cases member
  · intro stands
    obtain ⟨value, written, rfl⟩ := stands
    rw [UInt64.toNat_ofNat_of_lt' (Nat.lt_of_lt_of_le written.lt fits)]
    exact .inr (.inl ⟨width, listed, written⟩)

private theorem uintForm_signed (listed : (marker, width) ∈ Family.signed) :
    UIntForm number (marker :: back) ↔
      ∃ value, Digits width value back ∧ 2 * value < 256 ^ width ∧ number = UInt64.ofNat value := by
  obtain ⟨large, _, fits⟩ := signed_markers _ listed
  rw [uintForm_iff]
  constructor
  · intro stands
    rcases stands with ⟨small, _⟩ | ⟨other, member, _⟩ | ⟨other, member, small, written⟩
    · exact absurd small large
    · have unsigned := (uint_markers _ member).2.2.2
      rw [lookup_signed.mpr listed] at unsigned
      cases unsigned
    · rw [← lookup_signed] at listed member
      rw [listed] at member
      cases member
      exact ⟨_, written, small, UInt64.ofNat_toNat.symm⟩
  · intro stands
    obtain ⟨value, written, small, rfl⟩ := stands
    rw [UInt64.toNat_ofNat_of_lt' (Nat.lt_of_lt_of_le written.lt fits)]
    exact .inr (.inr ⟨width, listed, small, written⟩)

private theorem not_uintForm (large : ¬ marker < 0x80)
    (unlisted : ∀ width, (marker, width) ∉ Family.uint.wide)
    (unsigned : ∀ width, (marker, width) ∉ Family.signed) : ¬ UIntForm number (marker :: back) := by
  rw [uintForm_iff]
  intro stands
  rcases stands with ⟨small, _⟩ | ⟨width, listed, _⟩ | ⟨width, listed, _⟩
  · exact large small
  · exact unlisted width listed
  · exact unsigned width listed

end Markers

/-- What is read of an integer behind its marker. -/
private def behindMarker (marker : UInt8) : Reader UInt64 :=
  if marker < 0x80 then pure marker.toUInt64
  else if 0xe0 ≤ marker then throw .negative
  else match Family.uint.wide.lookup marker with
    | some width => readNumber width >>= fun number => pure (UInt64.ofNat number)
    | none => match Family.signed.lookup marker with
      | some width => readNumber width >>= fun number =>
        if 256 ^ width ≤ 2 * number then throw .negative else pure (UInt64.ofNat number)
      | none => throw .kind

private theorem readUInt_eq : readUInt = readMarker >>= behindMarker := rfl

private theorem nonnegative_follows (width number : Nat) :
    Follows (if 256 ^ width ≤ 2 * number then throw .negative else pure (UInt64.ofNat number) :
        Reader UInt64)
      (fun result piece => 2 * number < 256 ^ width ∧ result = UInt64.ofNat number ∧ piece = []) := by
  by_cases small : 2 * number < 256 ^ width
  · rw [if_neg (by omega)]
    exact (Follows.pure _).congr fun _ _ => (and_iff_right small).symm
  · rw [if_pos (by omega)]
    exact (Follows.throw _).congr fun _ _ => ⟨False.elim, fun stands => small stands.1⟩

private theorem behindMarker_follows (marker : UInt8) :
    Follows (behindMarker marker) (fun number back => UIntForm number (marker :: back)) := by
  unfold behindMarker
  split
  · rename_i small
    exact (Follows.pure _).congr fun number back => (uintForm_small small).symm
  · rename_i large
    split
    · rename_i tall
      exact (Follows.throw _).congr fun number back => ⟨False.elim, not_uintForm large
        (fun _ listed => (uint_markers _ listed).2.1 tall)
        (fun _ listed => (signed_markers _ listed).2.1 tall)⟩
    · split
      · rename_i width known
        exact ((readNumber_follows width).map UInt64.ofNat).congr fun number back =>
          (uintForm_uint (lookup_uint.mp known)).symm
      · rename_i unlisted
        split
        · rename_i width known
          refine ((readNumber_follows width).bind (nonnegative_follows width)).congr
            fun number back => (Iff.trans ?_ (uintForm_signed (lookup_signed.mp known)).symm)
          constructor
          · intro stands
            obtain ⟨value, _, _, written, ⟨small, rfl, rfl⟩, rfl⟩ := stands
            exact ⟨value, by simpa using written, small, rfl⟩
          · intro stands
            obtain ⟨value, written, small, rfl⟩ := stands
            exact ⟨value, back, [], written, ⟨small, rfl, rfl⟩, by simp⟩
        · rename_i unsigned
          exact (Follows.throw _).congr fun number back => ⟨False.elim, not_uintForm large
            (fun _ listed => by simp [lookup_uint.mpr listed] at unlisted)
            (fun _ listed => by simp [lookup_signed.mpr listed] at unsigned)⟩

theorem readUInt_follows : Follows readUInt UIntForm := by
  rw [readUInt_eq]
  refine (readMarker_follows.bind behindMarker_follows).congr fun number piece => ?_
  constructor
  · intro stands
    obtain ⟨marker, _, back, rfl, stands, rfl⟩ := stands
    exact stands
  · intro stands
    cases piece with
    | nil => rcases stands with unsigned | signed <;> contradiction
    | cons marker back => exact ⟨marker, [marker], back, rfl, stands, rfl⟩

end WalletTools.MessagePack
