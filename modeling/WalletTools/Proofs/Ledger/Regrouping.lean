import WalletTools.Ledger.Mnemonic
import WalletTools.Proofs.Radix

/-! Regrouping keeps the number: bytes and numbers of eleven bits, written out of each other, have the
same value. At every step the buffer holds exactly the bits that are not written out yet, so it stays
below the power of two that their number allows. -/
namespace WalletTools.Ledger.Mnemonic

open Radix

/-- A buffer and a number in front of its bits have room for the bits of both. -/
theorem filled_lt (fits : buffer < 2 ^ bits) (small : number < 2 ^ width) :
    buffer + number * 2 ^ bits < 2 ^ (bits + width) := by
  have room : (number + 1) * 2 ^ bits ≤ 2 ^ width * 2 ^ bits := Nat.mul_le_mul_right _ small
  rw [Nat.add_mul, Nat.one_mul] at room
  rw [Nat.pow_add, Nat.mul_comm (2 ^ bits)]
  omega

/-- A number that is taken into the buffer keeps its place before the rest. -/
theorem filled_add (buffer bits number width rest : Nat) :
    buffer + number * 2 ^ bits + 2 ^ (bits + width) * rest =
      buffer + 2 ^ bits * (number + 2 ^ width * rest) := by
  rw [Nat.mul_add, Nat.pow_add, Nat.mul_assoc, Nat.mul_comm number, Nat.add_assoc]

/-! ## Numbers as bytes -/

theorem length_packFrom (small : bits < 8) (buffer : Nat) (numbers : List Nat) :
    (packFrom buffer bits numbers).length = (bits + 11 * numbers.length + 7) / 8 := by
  induction numbers generalizing buffer bits with
  | nil =>
    unfold packFrom
    split
    · simp_all
    · simp only [List.length_singleton, List.length_nil]
      omega
  | cons number rest ih =>
    rw [packFrom, List.length_append, length_toBytes, ih (Nat.mod_lt _ (by decide)),
      List.length_cons]
    omega

/-- The bytes that are written out now and the bits that stay in the buffer share out all bits. -/
private theorem packed_bits (bits : Nat) :
    256 ^ ((bits + 11) / 8) * 2 ^ ((bits + 11) % 8) = 2 ^ (bits + 11) := by
  rw [show 256 = 2 ^ 8 by decide, ← Nat.pow_mul, ← Nat.pow_add, Nat.div_add_mod]

theorem ofBytes_packFrom (fits : buffer < 2 ^ bits) (small : bits < 8)
    (below : ∀ number ∈ numbers, number < 2048) :
    ofBytes (packFrom buffer bits numbers) = buffer + 2 ^ bits * value 2048 numbers := by
  induction numbers generalizing buffer bits with
  | nil =>
    unfold packFrom
    split
    · rename_i empty
      subst bits
      rw [Nat.lt_one_iff.mp fits]
      rfl
    · have byte : buffer < 256 := Nat.lt_trans fits (Nat.pow_lt_pow_right (by decide) small)
      simp [ofBytes, value, Nat.mod_eq_of_lt byte]
  | cons number rest ih =>
    obtain ⟨first, later⟩ := List.forall_mem_cons.mp below
    let filled := buffer + number * 2 ^ bits
    let size := (bits + 11) / 8
    have kept : filled / 256 ^ size < 2 ^ ((bits + 11) % 8) := by
      apply Nat.div_lt_of_lt_mul
      rw [packed_bits]
      exact filled_lt fits first
    rw [packFrom, ofBytes_append, ofBytes_toBytes, length_toBytes,
      ih kept (Nat.mod_lt _ (by decide)) later]
    calc filled % 256 ^ size + 256 ^ size *
          (filled / 256 ^ size + 2 ^ ((bits + 11) % 8) * value 2048 rest)
        = filled + 2 ^ (bits + 11) * value 2048 rest := by
          rw [Nat.mul_add, ← Nat.add_assoc, Nat.mod_add_div, ← Nat.mul_assoc, packed_bits]
      _ = buffer + 2 ^ bits * value 2048 (number :: rest) :=
          filled_add buffer bits number 11 (value 2048 rest)

theorem length_pack (numbers : List Nat) : (pack numbers).length = (11 * numbers.length + 7) / 8 := by
  rw [pack, length_packFrom (by decide), Nat.zero_add]

theorem ofBytes_pack (below : ∀ number ∈ numbers, number < 2048) :
    ofBytes (pack numbers) = value 2048 numbers := by
  rw [pack, ofBytes_packFrom (by decide) (by decide) below, Nat.pow_zero, Nat.zero_add, Nat.one_mul]

/-! ## Bytes as numbers -/

theorem length_unpackFrom (small : bits < 11) (buffer : Nat) (bytes : Bytes) :
    (unpackFrom buffer bits bytes).length = (bits + 8 * bytes.length + 10) / 11 := by
  induction bytes generalizing buffer bits with
  | nil =>
    unfold unpackFrom
    split
    · simp_all
    · simp only [List.length_singleton, List.length_nil]
      omega
  | cons byte rest ih =>
    unfold unpackFrom
    by_cases enough : 11 ≤ bits + 8
    · rw [if_pos enough, List.length_cons, List.length_cons, ih (by omega)]
      omega
    · rw [if_neg enough, List.length_cons, ih (by omega)]
      omega

theorem lt_of_mem_unpackFrom (member : number ∈ unpackFrom buffer bits bytes) : number < 2048 := by
  induction bytes generalizing buffer bits with
  | nil =>
    unfold unpackFrom at member
    split at member
    · cases member
    · rw [List.mem_singleton.mp member]
      exact Nat.mod_lt _ (by decide)
  | cons byte rest ih =>
    unfold unpackFrom at member
    split at member
    · rcases List.mem_cons.mp member with rfl | later
      · exact Nat.mod_lt _ (by decide)
      · exact ih later
    · exact ih member

theorem value_unpackFrom (fits : buffer < 2 ^ bits) (small : bits < 11) (bytes : Bytes) :
    value 2048 (unpackFrom buffer bits bytes) = buffer + 2 ^ bits * ofBytes bytes := by
  induction bytes generalizing buffer bits with
  | nil =>
    unfold unpackFrom
    split
    · rename_i empty
      subst bits
      rw [Nat.lt_one_iff.mp fits]
      rfl
    · have number : buffer < 2048 := Nat.lt_trans fits (Nat.pow_lt_pow_right (by decide) small)
      simp [ofBytes, value, Nat.mod_eq_of_lt number]
  | cons byte rest ih =>
    let filled := buffer + byte.toNat * 2 ^ bits
    have whole : filled + 2 ^ (bits + 8) * ofBytes rest =
        buffer + 2 ^ bits * ofBytes (byte :: rest) :=
      filled_add buffer bits byte.toNat 8 (ofBytes rest)
    have room : filled < 2 ^ (bits + 8) := filled_lt fits byte.toNat_lt
    rw [← whole]
    unfold unpackFrom
    by_cases enough : 11 ≤ bits + 8
    · -- A number is given out: its eleven bits leave the buffer.
      have bitsLeft : 2048 * 2 ^ (bits + 8 - 11) = 2 ^ (bits + 8) := by
        rw [show 2048 = 2 ^ 11 by decide, ← Nat.pow_add, Nat.add_sub_cancel' enough]
      have kept : filled / 2048 < 2 ^ (bits + 8 - 11) := by
        apply Nat.div_lt_of_lt_mul
        rwa [bitsLeft]
      rw [if_pos enough, value, ih kept (by omega), Nat.mul_add, ← Nat.add_assoc, Nat.mod_add_div,
        ← Nat.mul_assoc, bitsLeft]
    · rw [if_neg enough, ih room (by omega)]

theorem length_unpack (bytes : Bytes) : (unpack bytes).length = (8 * bytes.length + 10) / 11 := by
  rw [unpack, length_unpackFrom (by decide), Nat.zero_add]

theorem lt_of_mem_unpack (member : number ∈ unpack bytes) : number < 2048 :=
  lt_of_mem_unpackFrom member

theorem value_unpack (bytes : Bytes) : value 2048 (unpack bytes) = ofBytes bytes := by
  rw [unpack, value_unpackFrom (by decide) (by decide), Nat.pow_zero, Nat.zero_add, Nat.one_mul]

end WalletTools.Ledger.Mnemonic
