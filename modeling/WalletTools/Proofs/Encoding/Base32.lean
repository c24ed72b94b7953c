import WalletTools.Encoding.Base32
import WalletTools.Proofs.Encoding.Symbols
import WalletTools.Proofs.Except

/-! Base 32 text and bytes are in one-to-one correspondence: a text is read as bytes exactly where its
symbols are of the alphabet and their bits are those of the bytes, followed by fewer zeros than a
symbol has bits; and bytes have one such text. -/
namespace WalletTools.Base32

open Radix

theorem alphabet_good : IsAlphabet 5 alphabet := .of_all (by decide) rfl (by decide) (by decide)

theorem values_eq_ok_iff {position : Nat} {text : Bytes} {list : List Nat} :
    values position text = .ok list ↔
      (∀ value ∈ list, value < 2 ^ 5) ∧ text = list.map fun value => byteOf (symbol alphabet value) := by
  induction text generalizing position list with
  | nil =>
    cases list <;> simp [values]
  | cons byte rest ih =>
    unfold values
    cases found : symbolValue? alphabet byte with
    | none =>
      refine ⟨nofun, fun given => ?_⟩
      obtain ⟨below, written⟩ := given
      cases list with
      | nil => cases written
      | cons value later =>
        have known := alphabet_good.symbolValue?_eq_some_iff.mpr
          ⟨(List.forall_mem_cons.mp below).1, (List.cons.inj written).1⟩
        cases found.symm.trans known
    | some value =>
      obtain ⟨small, rfl⟩ := alphabet_good.symbolValue?_eq_some_iff.mp found
      constructor
      · intro success
        cases read : values (position + 1) rest with
        | error fault => simp [read, Except.map] at success
        | ok later =>
          obtain ⟨below, rfl⟩ := ih.mp read
          rw [read] at success
          cases success
          exact ⟨List.forall_mem_cons.mpr ⟨small, below⟩, rfl⟩
      · intro given
        obtain ⟨below, written⟩ := given
        cases list with
        | nil => cases written
        | cons other later =>
          obtain ⟨first, others⟩ := List.forall_mem_cons.mp below
          obtain ⟨same, rest⟩ := List.cons.inj written
          have known := alphabet_good.symbolValue?_eq_some_iff.mpr ⟨first, same⟩
          rw [found] at known
          cases known
          rw [ih.mpr ⟨others, rest⟩]
          rfl

/-- Symbols are read as bytes where they have the bits of those bytes. -/
theorem decode_eq_ok_iff_regroups {text bytes : Bytes} : decode text = .ok bytes ↔
    ∃ list, values 0 text = .ok list ∧ Regroups 5 list bytes := by
  unfold decode
  simp only [refuse_eq_ok_iff, bind_eq_ok_iff, ne_eq, not_not]
  constructor
  · intro success
    obtain ⟨sized, list, read, success⟩ := success
    obtain ⟨below, written⟩ := values_eq_ok_iff.mp read
    have length : text.length = list.length := by rw [written, List.length_map]
    split at success
    · rename_i taken
      cases success
      obtain ⟨spare, _, same⟩ := (ungroup?_eq_some_iff below).mp taken
      have bits := ((bits_eq_iff below).mp same).1
      have held : 5 * text.length / 8 = bytes.length := by omega
      refine ⟨list, read, spare, ?_, same⟩
      rw [symbolCount, byteCount, held] at sized
      omega
    · cases success
  · intro given
    obtain ⟨list, read, spare, small, same⟩ := given
    obtain ⟨below, written⟩ := values_eq_ok_iff.mp read
    have length : text.length = list.length := by rw [written, List.length_map]
    have sized := ((bits_eq_iff below).mp same).1
    have held : 5 * text.length / 8 = bytes.length := by omega
    refine ⟨?_, list, read, ?_⟩
    · rw [symbolCount, byteCount, held]
      omega
    · rw [(ungroup?_eq_some_iff below).mpr ⟨spare, by omega, same⟩]
      rfl

theorem length_of_decode {text bytes : Bytes} (read : decode text = .ok bytes) :
    bytes.length = byteCount 5 text.length := by
  obtain ⟨list, found, spare, small, same⟩ := decode_eq_ok_iff_regroups.mp read
  obtain ⟨below, written⟩ := values_eq_ok_iff.mp found
  have sized := ((bits_eq_iff below).mp same).1
  rw [written, List.length_map, byteCount]
  omega

theorem encode_eq (bytes : Bytes) :
    encode bytes = String.ofList ((regroup 5 bytes).map (symbol alphabet)) := rfl

/-- A text is read as some bytes exactly where it is what these bytes are written as. -/
theorem decode_eq_ok_iff {text : String} {bytes : Bytes} :
    decode (Text.Utf8.encode text) = .ok bytes ↔ text = encode bytes := by
  rw [decode_eq_ok_iff_regroups, encode_eq]
  constructor
  · intro given
    obtain ⟨list, read, stands⟩ := given
    obtain ⟨below, written⟩ := values_eq_ok_iff.mp read
    rw [← (regroups_iff (by decide) below).mp stands]
    exact Text.Utf8.encode_injective (written.trans (alphabet_good.encode_symbols below).symm)
  · intro same
    subst same
    have below : ∀ value ∈ regroup 5 bytes, value < 2 ^ 5 := fun _ member =>
      lt_of_mem_regroup member
    exact ⟨_, values_eq_ok_iff.mpr ⟨below, alphabet_good.encode_symbols below⟩,
      (regroups_iff (by decide) below).mpr rfl⟩

theorem encode_injective {left right : Bytes} (same : encode left = encode right) : left = right := by
  have read := decode_eq_ok_iff.mpr same
  rw [decode_eq_ok_iff.mpr rfl] at read
  exact Except.ok.inj read

theorem length_encode (bytes : Bytes) : (encode bytes).length = symbolCount 5 bytes.length := by
  rw [encode_eq, String.length_ofList, List.length_map, length_regroup]

/-! ## Texts by their bits -/

/-- The bits of a text's symbols. -/
def bits (text : String) : List Nat := symbolBits alphabet 5 text.toList

/-- A text writes the bytes whose bits it has, if all its characters are symbols. -/
theorem eq_encode_iff_bits {text : String} {bytes : Bytes} : text = encode bytes ↔
    (∀ char ∈ text.toList, char ∈ alphabet) ∧
      ∃ spare < 5, bits text = byteBits bytes ++ List.replicate spare 0 := by
  have listed : text = encode bytes ↔ text.toList = (regroup 5 bytes).map (symbol alphabet) := by
    rw [encode_eq]
    exact ⟨fun same => same ▸ String.toList_ofList, fun same => by rw [← same, String.ofList_toList]⟩
  rw [listed]
  exact alphabet_good.eq_map_regroup_iff

theorem mem_alphabet_of_mem_encode {bytes : Bytes} {char : Char}
    (member : char ∈ (encode bytes).toList) : char ∈ alphabet :=
  (eq_encode_iff_bits.mp rfl).1 char member

end WalletTools.Base32
