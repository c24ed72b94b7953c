import Mathlib.Algebra.Order.Floor.Div
import WalletTools.Proofs.Ledger.Regrouping

/-! Regrouping in registers of 32 bits. A loop takes groups of bits into a buffer by shifting and gives out
groups of another width by masking; bytes and numbers of eleven bits are regrouped by two such loops. At
every point of a loop the buffer is the number that is not given out yet, and it stays so small that no
register overflows. -/
namespace WalletTools.Ledger.Mnemonic

open Radix

/-- The groups that are given out, the buffer, and the number of bits in it. -/
structure Registers where
  given : List UInt32
  buffer : UInt32
  bits : UInt32
deriving DecidableEq, Repr

/-- A loop over groups of `taken` bits, which gives out groups of `width` bits. Having given out one it
looks whether there is another one, or takes the next group at once. -/
structure Loop where
  taken : UInt32
  width : UInt32
  again : Bool
deriving DecidableEq, Repr

/-- Bytes of numbers of eleven bits: a number can fill two bytes. -/
def packing : Loop := ⟨11, 8, true⟩

/-- Numbers of eleven bits of bytes: a byte fills one number at most. -/
def unpacking : Loop := ⟨8, 11, false⟩

namespace Loop

variable (loop : Loop)

/-- The bits of one group. -/
def mask : UInt32 := 1 <<< loop.width - 1

/-- Puts a group in front of the bits of the buffer. -/
def take (state : Registers) (group : UInt32) : Registers :=
  { state with buffer := state.buffer ||| group <<< state.bits, bits := state.bits + loop.taken }

/-- Gives out the last bits of the buffer. -/
def give (state : Registers) : Registers :=
  ⟨state.given ++ [state.buffer &&& loop.mask], state.buffer >>> loop.width, state.bits - loop.width⟩

/-- What has been given out in the end: bits that are left fill a group of their own. -/
def finish (state : Registers) : List UInt32 :=
  if state.bits ≠ 0 then state.given ++ [state.buffer &&& loop.mask] else state.given

/-- Where a loop stands: before it takes a group, or before it looks whether it can give one out. -/
inductive Point
  | head
  | body
deriving DecidableEq, Repr

/-- The registers that a loop passes, and the groups that it has taken so far. -/
inductive Passes : Point → List UInt32 → Registers → Prop
  | start : Passes .head [] ⟨[], 0, 0⟩
  | take (before : Passes .head groups state) (group : UInt32) :
      Passes .body (groups ++ [group]) (loop.take state group)
  | give (before : Passes .body groups state) (enough : loop.width ≤ state.bits) :
      Passes (if loop.again then .body else .head) groups (loop.give state)
  | next (before : Passes .body groups state) (few : state.bits < loop.width) :
      Passes .head groups state

/-- A loop whose registers have room for what is in them between two groups. -/
structure Sound : Prop where
  positive : 0 < loop.width.toNat
  room : loop.taken.toNat + loop.width.toNat ≤ 19
  masked : loop.mask.toNat = 2 ^ loop.width.toNat - 1
  once : loop.again = false → loop.taken.toNat ≤ loop.width.toNat

/-- The number that groups of a width hold, the first the least significant. -/
def number (width : UInt32) (groups : List UInt32) : Nat :=
  value (2 ^ width.toNat) (groups.map UInt32.toNat)

/-- What stands at every point of a loop. No bit is lost: those taken are those given out and those in the
buffer, which holds no other. -/
structure Keeps (point : Point) (groups : List UInt32) (state : Registers) : Prop where
  counted : loop.taken.toNat * groups.length = loop.width.toNat * state.given.length + state.bits.toNat
  shared : number loop.taken groups = number loop.width state.given +
    (2 ^ loop.width.toNat) ^ state.given.length * state.buffer.toNat
  below : state.buffer.toNat < 2 ^ state.bits.toNat
  groups : ∀ group ∈ state.given, group.toNat < 2 ^ loop.width.toNat
  bounded : state.bits.toNat <
    match point with
    | .head => loop.width.toNat
    | .body => loop.width.toNat + loop.taken.toNat

/-- A group is taken without the loss of a bit, and no register overflows. -/
structure TakesWhole (state : Registers) (group : UInt32) : Prop where
  shifted : (group <<< state.bits).toNat = group.toNat * 2 ^ state.bits.toNat
  joined : (loop.take state group).buffer.toNat =
    state.buffer.toNat + group.toNat * 2 ^ state.bits.toNat
  counted : (loop.take state group).bits.toNat = state.bits.toNat + loop.taken.toNat

/-- A group is given out as it is in the buffer, and the rest of the buffer is kept. -/
structure GivesWhole (state : Registers) : Prop where
  masked : (state.buffer &&& loop.mask).toNat = state.buffer.toNat % 2 ^ loop.width.toNat
  shifted : (loop.give state).buffer.toNat = state.buffer.toNat / 2 ^ loop.width.toNat
  counted : (loop.give state).bits.toNat + loop.width.toNat = state.bits.toNat

variable {loop} {point : Point} {groups : List UInt32} {state : Registers} {group : UInt32}

/-! ## Steps -/

private theorem two_pow_lt_word {bits : Nat} (few : bits < 19) : 2 ^ bits ≤ 2 ^ 18 :=
  Nat.pow_le_pow_right (by decide) (Nat.le_of_lt_succ few)

theorem Sound.and_mask (sound : loop.Sound) (buffer : UInt32) :
    (buffer &&& loop.mask).toNat = buffer.toNat % 2 ^ loop.width.toNat := by
  rw [UInt32.toNat_and, sound.masked, Nat.and_two_pow_sub_one_eq_mod]

theorem Keeps.takesWhole (sound : loop.Sound) (keeps : loop.Keeps .head groups state)
    (fits : group.toNat < 2 ^ loop.taken.toNat) : loop.TakesWhole state group := by
  have bounded : state.bits.toNat < loop.width.toNat := keeps.bounded
  have room := sound.room
  have full := filled_lt keeps.below fits
  have small : 2 ^ (state.bits.toNat + loop.taken.toNat) ≤ 2 ^ 18 := two_pow_lt_word (by omega)
  have shifted : (group <<< state.bits).toNat = group.toNat * 2 ^ state.bits.toNat := by
    rw [UInt32.toNat_shiftLeft, Nat.mod_eq_of_lt (by omega : state.bits.toNat < 32), Nat.shiftLeft_eq,
      Nat.mod_eq_of_lt (by omega)]
  refine ⟨shifted, ?_, ?_⟩
  · change (state.buffer ||| group <<< state.bits).toNat = _
    rw [UInt32.toNat_or, shifted, ← Nat.shiftLeft_eq, Nat.or_comm,
      ← Nat.shiftLeft_add_eq_or_of_lt keeps.below, Nat.add_comm]
  · change (state.bits + loop.taken).toNat = _
    rw [UInt32.toNat_add, Nat.mod_eq_of_lt (by omega)]

theorem givesWhole (sound : loop.Sound) (enough : loop.width ≤ state.bits) :
    loop.GivesWhole state := by
  have room := sound.room
  refine ⟨sound.and_mask _, ?_, ?_⟩
  · change (state.buffer >>> loop.width).toNat = _
    rw [UInt32.toNat_shiftRight, Nat.mod_eq_of_lt (by omega), Nat.shiftRight_eq_div_pow]
  · change (state.bits - loop.width).toNat + _ = _
    rw [UInt32.toNat_sub_of_le _ _ enough]
    exact Nat.sub_add_cancel (UInt32.le_iff_toNat_le.mp enough)

private theorem number_append (width : UInt32) (groups : List UInt32) (group : UInt32) :
    number width (groups ++ [group]) =
      number width groups + (2 ^ width.toNat) ^ groups.length * group.toNat := by
  simp [number, value_append, value]

theorem keeps_start (sound : loop.Sound) : loop.Keeps .head [] ⟨[], 0, 0⟩ where
  counted := rfl
  shared := rfl
  below := by decide
  groups := nofun
  bounded := sound.positive

theorem Keeps.take (sound : loop.Sound) (keeps : loop.Keeps .head groups state)
    (fits : group.toNat < 2 ^ loop.taken.toNat) :
    loop.Keeps .body (groups ++ [group]) (loop.take state group) := by
  have whole := keeps.takesWhole sound fits
  refine ⟨?_, ?_, ?_, keeps.groups, ?_⟩
  · rw [whole.counted, List.length_append, List.length_singleton, Nat.mul_succ, keeps.counted]
    exact Nat.add_assoc _ _ _
  · have places : (2 ^ loop.taken.toNat) ^ groups.length =
        (2 ^ loop.width.toNat) ^ state.given.length * 2 ^ state.bits.toNat := by
      rw [← Nat.pow_mul, ← Nat.pow_mul, ← Nat.pow_add, keeps.counted]
    rw [number_append, whole.joined, keeps.shared, places, Nat.mul_add, Nat.add_assoc,
      Nat.mul_comm group.toNat, Nat.mul_assoc]
    rfl
  · rw [whole.joined, whole.counted]
    exact filled_lt keeps.below fits
  · rw [whole.counted]
    exact Nat.add_lt_add_right keeps.bounded _

theorem Keeps.give (sound : loop.Sound) (keeps : loop.Keeps .body groups state)
    (enough : loop.width ≤ state.bits) :
    loop.Keeps (if loop.again then .body else .head) groups (loop.give state) := by
  have whole := givesWhole sound enough
  refine ⟨?_, ?_, ?_, ?_, ?_⟩
  · rw [keeps.counted, ← whole.counted]
    change _ = loop.width.toNat * (state.given ++ [_]).length + _
    rw [List.length_append, List.length_singleton, Nat.mul_succ]
    omega
  · change _ = number loop.width (state.given ++ [_]) +
      (2 ^ loop.width.toNat) ^ (state.given ++ [_]).length * _
    rw [keeps.shared, number_append, whole.masked, whole.shifted, List.length_append,
      List.length_singleton, Nat.pow_succ, Nat.mul_assoc, Nat.add_assoc, ← Nat.mul_add, Nat.mod_add_div]
  · rw [whole.shifted]
    apply Nat.div_lt_of_lt_mul
    rw [← Nat.pow_add, Nat.add_comm, whole.counted]
    exact keeps.below
  · intro group member
    rcases List.mem_append.mp member with earlier | last
    · exact keeps.groups group earlier
    · rw [List.mem_singleton.mp last, whole.masked]
      exact Nat.mod_lt _ (Nat.two_pow_pos _)
  · have bounded : state.bits.toNat < loop.width.toNat + loop.taken.toNat := keeps.bounded
    have counted := whole.counted
    cases again : loop.again with
    | false =>
      have once := sound.once again
      change (loop.give state).bits.toNat < loop.width.toNat
      omega
    | true =>
      change (loop.give state).bits.toNat < loop.width.toNat + loop.taken.toNat
      omega

/-- What stands at every point of a run over groups that fit. -/
theorem Passes.keeps (sound : loop.Sound) (passes : loop.Passes point groups state)
    (fits : ∀ group ∈ groups, group.toNat < 2 ^ loop.taken.toNat) : loop.Keeps point groups state := by
  induction passes with
  | start => exact keeps_start sound
  | take _ group ih =>
    obtain ⟨earlier, last⟩ := List.forall_mem_append.mp fits
    exact (ih earlier).take sound (last group List.mem_cons_self)
  | give _ enough ih => exact (ih fits).give sound enough
  | next _ few ih =>
    have keeps := ih fits
    exact ⟨keeps.counted, keeps.shared, keeps.below, keeps.groups, UInt32.lt_iff_toNat_lt.mp few⟩

/-- The buffer is what is left of the number that has been taken behind what has been given out. -/
theorem Keeps.buffer_eq (keeps : loop.Keeps point groups state) : state.buffer.toNat =
    number loop.taken groups / (2 ^ loop.width.toNat) ^ state.given.length := by
  have small : number loop.width state.given < (2 ^ loop.width.toNat) ^ state.given.length := by
    rw [← List.length_map UInt32.toNat]
    exact value_lt _ (List.forall_mem_map.mpr keeps.groups)
  rw [keeps.shared, Nat.add_mul_div_left _ _ (Nat.pow_pos (Nat.two_pow_pos _)),
    Nat.div_eq_of_lt small, Nat.zero_add]

theorem Keeps.buffer_lt (sound : loop.Sound) (keeps : loop.Keeps point groups state) :
    state.buffer.toNat < 2 ^ 18 := by
  have room := sound.room
  have bounded := keeps.bounded
  refine Nat.lt_of_lt_of_le keeps.below (two_pow_lt_word ?_)
  cases point with
  | head =>
    change state.bits.toNat < loop.width.toNat at bounded
    omega
  | body =>
    change state.bits.toNat < loop.width.toNat + loop.taken.toNat at bounded
    omega

/-! ## Runs -/

/-- Behind every group the loop comes to the next one. -/
theorem exists_head (sound : loop.Sound) (passes : loop.Passes .body groups state) :
    ∃ later, loop.Passes .head groups later := by
  induction size : state.bits.toNat using Nat.strongRecOn generalizing state with
  | ind size ih =>
    by_cases enough : loop.width ≤ state.bits
    · have given := passes.give enough
      cases again : loop.again with
      | false =>
        rw [again] at given
        exact ⟨_, given⟩
      | true =>
        -- The buffer has lost the bits of a group, and a group has at least one.
        rw [again] at given
        have counted := (givesWhole sound enough).counted
        have positive := sound.positive
        exact ih _ (by omega) given rfl
    · exact ⟨state, passes.next (UInt32.not_le.mp enough)⟩

theorem exists_passes (sound : loop.Sound) (groups : List UInt32) :
    ∃ state, loop.Passes .head groups state := by
  induction groups using List.reverseRecOn with
  | nil => exact ⟨_, .start⟩
  | append_singleton groups group ih =>
    obtain ⟨state, passes⟩ := ih
    exact exists_head sound (passes.take group)

section

variable (sound : loop.Sound) (keeps : loop.Keeps .head groups state)
include sound keeps

/-- Bits that are left are fewer than a group, so that they are the whole of the last one. -/
private theorem left_eq : (state.buffer &&& loop.mask).toNat = state.buffer.toNat := by
  rw [sound.and_mask, Nat.mod_eq_of_lt]
  exact Nat.lt_of_lt_of_le keeps.below (Nat.pow_le_pow_right (by decide) (Nat.le_of_lt keeps.bounded))

theorem length_finish :
    (loop.finish state).length = (loop.taken.toNat * groups.length) ⌈/⌉ loop.width.toNat := by
  have bounded : state.bits.toNat < loop.width.toNat := keeps.bounded
  have positive := sound.positive
  rw [Nat.ceilDiv_eq_add_pred_div, keeps.counted, Nat.add_assoc, Nat.add_sub_assoc (by omega),
    Nat.mul_add_div positive]
  unfold finish
  split
  · rename_i some
    have left : state.bits.toNat ≠ 0 := fun none => some (UInt32.toNat_inj.mp none)
    have one : (state.bits.toNat + loop.width.toNat - 1) / loop.width.toNat = 1 :=
      Nat.div_eq_of_lt_le (by omega) (by omega)
    rw [List.length_append, List.length_singleton, one]
  · rename_i none
    have zero : (0 + loop.width.toNat - 1) / loop.width.toNat = 0 := Nat.div_eq_of_lt (by omega)
    rw [Decidable.not_not.mp none, UInt32.toNat_zero, zero, Nat.add_zero]

theorem number_finish : number loop.width (loop.finish state) = number loop.taken groups := by
  rw [keeps.shared]
  unfold finish
  split
  · rw [number_append, left_eq sound keeps]
  · rename_i none
    have below := keeps.below
    rw [Decidable.not_not.mp none] at below
    rw [Nat.lt_one_iff.mp below, Nat.mul_zero, Nat.add_zero]

theorem lt_of_mem_finish (member : group ∈ loop.finish state) :
    group.toNat < 2 ^ loop.width.toNat := by
  unfold finish at member
  split at member
  · rcases List.mem_append.mp member with earlier | last
    · exact keeps.groups group earlier
    · rw [List.mem_singleton.mp last, sound.and_mask]
      exact Nat.mod_lt _ (Nat.two_pow_pos _)
  · exact keeps.groups group member

end

/-- A loop gives `result` for groups: it comes to the end of them, and whatever registers it ends with
hold the result. -/
structure Results (loop : Loop) (groups : List UInt32) (result : List Nat) : Prop where
  ends : ∃ state, loop.Passes .head groups state
  given (state : Registers) (passes : loop.Passes .head groups state) :
    (loop.finish state).map UInt32.toNat = result

/-- Groups of the right number that hold the right number are the result. -/
theorem results_of_number (sound : loop.Sound)
    (fits : ∀ group ∈ groups, group.toNat < 2 ^ loop.taken.toNat) {result : List Nat}
    (length : result.length = (loop.taken.toNat * groups.length) ⌈/⌉ loop.width.toNat)
    (small : ∀ digit ∈ result, digit < 2 ^ loop.width.toNat)
    (same : value (2 ^ loop.width.toNat) result = number loop.taken groups) :
    loop.Results groups result := by
  refine ⟨exists_passes sound groups, fun state passes => ?_⟩
  have keeps := passes.keeps sound fits
  refine value_injective (List.forall_mem_map.mpr fun group => lt_of_mem_finish sound keeps) small ?_ ?_
  · rw [List.length_map, length_finish sound keeps, length]
  · rw [same]
    exact number_finish sound keeps

/-- Nothing that a loop does on the way loses a bit or overflows. -/
structure Lossless (loop : Loop) (point : Point) (groups : List UInt32) (state : Registers) : Prop where
  below : state.buffer.toNat < 2 ^ 18
  pending : state.buffer.toNat =
    number loop.taken groups / (2 ^ loop.width.toNat) ^ state.given.length
  takes (head : point = .head) (group : UInt32) (fits : group.toNat < 2 ^ loop.taken.toNat) :
    loop.TakesWhole state group
  gives (enough : loop.width ≤ state.bits) : loop.GivesWhole state

theorem Passes.lossless (sound : loop.Sound) (passes : loop.Passes point groups state)
    (fits : ∀ group ∈ groups, group.toNat < 2 ^ loop.taken.toNat) :
    loop.Lossless point groups state := by
  have keeps := passes.keeps sound fits
  refine ⟨keeps.buffer_lt sound, keeps.buffer_eq, fun head group => ?_, givesWhole sound⟩
  subst head
  exact keeps.takesWhole sound

end Loop

theorem packing_sound : packing.Sound := ⟨by decide, by decide, by decide, by decide⟩

theorem unpacking_sound : unpacking.Sound := ⟨by decide, by decide, by decide, by decide⟩

/-- The numbers of a mnemonic as registers. -/
def wordGroups (numbers : List Nat) : List UInt32 := numbers.map UInt32.ofNat

/-- The bytes of a seed as registers. -/
def byteGroups (bytes : Bytes) : List UInt32 := bytes.map UInt8.toUInt32

private theorem wordGroups_toNat {numbers : List Nat} (below : ∀ number ∈ numbers, number < 2048) :
    (wordGroups numbers).map UInt32.toNat = numbers := by
  rw [wordGroups, List.map_map]
  refine (List.map_congr_left fun number member => ?_).trans (List.map_id _)
  exact UInt32.toNat_ofNat_of_lt' (Nat.lt_trans (below number member) (by decide))

private theorem wordGroups_fit {numbers : List Nat} (below : ∀ number ∈ numbers, number < 2048) :
    ∀ group ∈ wordGroups numbers, group.toNat < 2 ^ packing.taken.toNat := by
  rw [← wordGroups_toNat below] at below
  exact List.forall_mem_map.mp below

private theorem byteGroups_toNat (bytes : Bytes) :
    (byteGroups bytes).map UInt32.toNat = bytes.map UInt8.toNat := by
  rw [byteGroups, List.map_map]
  rfl

private theorem byteGroups_fit (bytes : Bytes) :
    ∀ group ∈ byteGroups bytes, group.toNat < 2 ^ unpacking.taken.toNat := by
  rw [byteGroups, List.forall_mem_map]
  exact fun byte _ => byte.toNat_lt

private theorem length_pack_ceil (numbers : List Nat) :
    (pack numbers).length = (11 * numbers.length) ⌈/⌉ 8 := by
  rw [length_pack, Nat.ceilDiv_eq_add_pred_div]
  rfl

private theorem length_unpack_ceil (bytes : Bytes) :
    (unpack bytes).length = (8 * bytes.length) ⌈/⌉ 11 := by
  rw [length_unpack, Nat.ceilDiv_eq_add_pred_div]
  rfl

theorem packing_results {numbers : List Nat} (below : ∀ number ∈ numbers, number < 2048) :
    packing.Results (wordGroups numbers) ((pack numbers).map UInt8.toNat) := by
  refine Loop.results_of_number packing_sound (wordGroups_fit below) ?_ ?_ ?_
  · rw [List.length_map, length_pack_ceil, wordGroups, List.length_map]
    rfl
  · exact List.forall_mem_map.mpr fun byte _ => byte.toNat_lt
  · rw [Loop.number, wordGroups_toNat below]
    exact ofBytes_pack below

theorem unpacking_results (bytes : Bytes) : unpacking.Results (byteGroups bytes) (unpack bytes) := by
  refine Loop.results_of_number unpacking_sound (byteGroups_fit bytes) ?_ ?_ ?_
  · rw [length_unpack_ceil, byteGroups, List.length_map]
    rfl
  · exact fun number member => lt_of_mem_unpack member
  · rw [Loop.number, byteGroups_toNat]
    exact value_unpack bytes

/-- Regrouping keeps the number, at every length: numbers of eleven bits fill as many bytes as their bits
need, bytes as many numbers, and the value stays. Both are what a loop in registers of 32 bits gives, in
which the buffer is at every point what is not given out yet, and no shift loses a bit. -/
theorem regrouping_keeps_number {numbers : List Nat} (below : ∀ number ∈ numbers, number < 2048)
    (bytes : Bytes) :
    ((pack numbers).length = (11 * numbers.length) ⌈/⌉ 8 ∧
      ofBytes (pack numbers) = value 2048 numbers ∧
      packing.Results (wordGroups numbers) ((pack numbers).map UInt8.toNat) ∧
      ∀ point groups state, packing.Passes point groups state → groups <+: wordGroups numbers →
        packing.Lossless point groups state) ∧
    (unpack bytes).length = (8 * bytes.length) ⌈/⌉ 11 ∧
      (∀ number ∈ unpack bytes, number < 2048) ∧
      value 2048 (unpack bytes) = ofBytes bytes ∧
      unpacking.Results (byteGroups bytes) (unpack bytes) ∧
      ∀ point groups state, unpacking.Passes point groups state → groups <+: byteGroups bytes →
        unpacking.Lossless point groups state := by
  refine ⟨⟨length_pack_ceil numbers, ofBytes_pack below, packing_results below, ?_⟩,
    length_unpack_ceil bytes, fun number member => lt_of_mem_unpack member, value_unpack bytes,
    unpacking_results bytes, ?_⟩
  · intro point groups state passes begins
    exact passes.lossless packing_sound fun group member =>
      wordGroups_fit below group (begins.subset member)
  · intro point groups state passes begins
    exact passes.lossless unpacking_sound fun group member =>
      byteGroups_fit bytes group (begins.subset member)

/-- Two of the largest numbers, whose twenty-two bits leave six in the third byte, and three bytes, whose
last two bits are a number of their own. -/
theorem regrouping_keeps_number_largest : (∀ number ∈ [2047, 2047], number < 2048) ∧
    pack [2047, 2047] = [0xff, 0xff, 0x3f] ∧ ofBytes (pack [2047, 2047]) = value 2048 [2047, 2047] ∧
    unpack [0xff, 0xff, 0xff] = [2047, 2047, 3] ∧
    value 2048 (unpack [0xff, 0xff, 0xff]) = ofBytes [0xff, 0xff, 0xff] := by
  have below : ∀ number ∈ [2047, 2047], number < 2048 := by decide
  obtain ⟨⟨_, packed, _⟩, _, _, unpacked, _⟩ := regrouping_keeps_number below [0xff, 0xff, 0xff]
  exact ⟨below, by decide, packed, by decide, unpacked⟩

end WalletTools.Ledger.Mnemonic
