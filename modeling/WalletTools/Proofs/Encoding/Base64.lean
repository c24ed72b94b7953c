import WalletTools.Encoding.Base64
import WalletTools.Proofs.Encoding.Symbols
import WalletTools.Proofs.Except

/-! Base 64 text and bytes are in one-to-one correspondence: a text is read as bytes exactly where it is
the padded text of these bytes. -/
namespace WalletTools.Base64

open Radix

theorem alphabet_good : IsAlphabet 6 alphabet := .of_all (by decide) rfl (by decide) (by decide)

theorem symbolValue?_pad : symbolValue? alphabet pad = none := by decide

/-- The padding that may stand behind so many symbols: none, or pads that fill at most half a group. -/
inductive IsPadding (count : Nat) : Bytes → Prop
  | none : IsPadding count []
  | pads (half : 2 ≤ count % 4) (room : count % 4 + more < 4) :
      IsPadding count (pad :: List.replicate more pad)

private theorem padded_iff {count : Nat} {byte : UInt8} {rest : Bytes} :
    (byte = pad ∧ 2 ≤ count % 4 ∧ count % 4 + rest.length < 4 ∧ rest.all (· == pad)) ↔
      IsPadding count (byte :: rest) := by
  constructor
  · intro given
    obtain ⟨rfl, half, room, pads⟩ := given
    simp only [List.all_eq_true, beq_iff_eq] at pads
    rw [List.eq_replicate_iff.mpr ⟨rfl, pads⟩]
    exact .pads half room
  · intro padding
    cases padding with
    | pads half room => exact ⟨rfl, half, by simpa using room, by simp⟩

theorem values_eq_ok_iff {position : Nat} {text padding : Bytes} {list : List Nat} :
    values position text = .ok (list, padding) ↔ (∀ value ∈ list, value < 2 ^ 6) ∧
      IsPadding (position + list.length) padding ∧
      text = (list.map fun value => byteOf (symbol alphabet value)) ++ padding := by
  induction text generalizing position list padding with
  | nil =>
    constructor
    · intro success
      cases success
      exact ⟨nofun, .none, rfl⟩
    · intro given
      obtain ⟨_, _, written⟩ := given
      obtain ⟨empty, rfl⟩ := List.append_eq_nil_iff.mp written.symm
      rw [List.map_eq_nil_iff.mp empty]
      rfl
  | cons byte rest ih =>
    unfold values
    cases found : symbolValue? alphabet byte with
    | some value =>
      obtain ⟨small, rfl⟩ := alphabet_good.symbolValue?_eq_some_iff.mp found
      constructor
      · intro success
        cases read : values (position + 1) rest with
        | error fault => simp [read, Except.map] at success
        | ok later =>
          obtain ⟨below, pads, rfl⟩ := ih.mp read
          rw [read] at success
          cases success
          refine ⟨List.forall_mem_cons.mpr ⟨small, below⟩, ?_, rfl⟩
          rwa [List.length_cons, Nat.add_comm later.1.length, ← Nat.add_assoc]
      · intro given
        obtain ⟨below, pads, written⟩ := given
        cases list with
        | nil =>
          -- A pad is no symbol.
          cases pads with
          | none => cases written
          | pads =>
            rw [(List.cons.inj written).1, symbolValue?_pad] at found
            cases found
        | cons other later =>
          obtain ⟨first, others⟩ := List.forall_mem_cons.mp below
          obtain ⟨same, rest⟩ := List.cons.inj written
          have known := alphabet_good.symbolValue?_eq_some_iff.mpr ⟨first, same⟩
          rw [found] at known
          cases known
          rw [List.length_cons, Nat.add_comm later.length, ← Nat.add_assoc] at pads
          rw [ih.mpr ⟨others, pads, rest⟩]
          rfl
    | none =>
      dsimp only
      constructor
      · intro success
        split at success
        · rename_i padded
          cases success
          exact ⟨nofun, padded_iff.mp padded, rfl⟩
        · cases success
      · intro given
        obtain ⟨below, pads, written⟩ := given
        cases list with
        | nil =>
          rw [List.map_nil, List.nil_append] at written
          subst written
          exact if_pos (padded_iff.mpr pads)
        | cons value later =>
          have known := alphabet_good.symbolValue?_eq_some_iff.mpr
            ⟨(List.forall_mem_cons.mp below).1, (List.cons.inj written).1⟩
          cases found.symm.trans known

/-! ## Bytes -/

theorem encode_eq (bytes : Bytes) : encode bytes =
    let symbols := (regroup 6 bytes).map (symbol alphabet)
    String.ofList (symbols ++ List.replicate ((4 - symbols.length % 4) % 4) '=') := rfl

private theorem utf8_encode (bytes : Bytes) : Text.Utf8.encode (encode bytes) =
    ((regroup 6 bytes).map fun value => byteOf (symbol alphabet value)) ++
      List.replicate ((4 - (regroup 6 bytes).length % 4) % 4) pad := by
  rw [encode_eq, Text.Utf8.encode_ofList]
  · simp only [List.map_append, List.map_map, List.map_replicate, List.length_map]
    rfl
  · intro char member
    rcases List.mem_append.mp member with symbol | padding
    · obtain ⟨value, listed, rfl⟩ := List.mem_map.mp symbol
      exact alphabet_good.ascii _ (alphabet_good.symbol_mem (lt_of_mem_regroup listed))
    · rw [List.eq_of_mem_replicate padding]
      decide

/-- A padding fills the last group exactly where there are as many pads as are written. -/
private theorem padding_iff {count : Nat} {padding : Bytes} (known : count % 4 ≠ 1) :
    IsPadding count padding ∧ (count + padding.length) % 4 = 0 ↔
      padding = List.replicate ((4 - count % 4) % 4) pad := by
  constructor
  · intro given
    obtain ⟨pads, whole⟩ := given
    cases pads with
    | none =>
      rw [List.length_nil, Nat.add_zero] at whole
      rw [whole]
      rfl
    | @pads more half room =>
      rw [List.length_cons, List.length_replicate] at whole
      have filled : (4 - count % 4) % 4 = more + 1 := by omega
      rw [filled]
      rfl
  · intro same
    subst same
    rw [List.length_replicate]
    refine ⟨?_, by omega⟩
    cases filled : (4 - count % 4) % 4 with
    | zero => exact .none
    | succ more => exact .pads (by omega) (by omega)

private theorem IsPadding.known {count : Nat} {padding : Bytes} (pads : IsPadding count padding)
    (whole : (count + padding.length) % 4 = 0) : count % 4 ≠ 1 := by
  cases pads with
  | none =>
    rw [List.length_nil] at whole
    omega
  | pads half room => omega

/-- A length that leaves one symbol over is refused at once. -/
private theorem length_of_decode {text bytes : Bytes} (success : decode text = .ok bytes) :
    text.length % 4 ≠ 1 := by
  intro left
  unfold decode at success
  rw [if_pos left] at success
  split at success
  · split at success <;> cases success
  · cases success

private theorem decode_of_length {text : Bytes} (whole : text.length % 4 ≠ 1) :
    decode text = (do
      let (symbols, padding) ← values 0 text
      if (symbols.length + padding.length) % 4 ≠ 0 then throw .padding
      match ungroup? 6 symbols with
      | some bytes => return bytes
      | none => throw (.lastSymbol (symbols.length - 1) (text.getD (symbols.length - 1) 0))) := by
  unfold decode
  exact if_neg whole

theorem decode_eq_ok_iff_regroups {text bytes : Bytes} : decode text = .ok bytes ↔
    ∃ list padding, values 0 text = .ok (list, padding) ∧ (list.length + padding.length) % 4 = 0 ∧
      Regroups 6 list bytes := by
  constructor
  · intro success
    rw [decode_of_length (length_of_decode success), bind_eq_ok_iff] at success
    obtain ⟨⟨list, padding⟩, read, success⟩ := success
    obtain ⟨full, success⟩ := refuse_eq_ok_iff.mp success
    have whole : (list.length + padding.length) % 4 = 0 := not_not.mp full
    obtain ⟨below, pads, written⟩ := values_eq_ok_iff.mp read
    rw [Nat.zero_add] at pads
    have known := pads.known whole
    split at success
    · rename_i taken
      cases success
      obtain ⟨spare, _, same⟩ := (ungroup?_eq_some_iff below).mp taken
      have sized := ((bits_eq_iff below).mp same).1
      exact ⟨list, padding, read, whole, spare, by omega, same⟩
    · cases success
  · intro given
    obtain ⟨list, padding, read, whole, spare, small, same⟩ := given
    obtain ⟨below, pads, written⟩ := values_eq_ok_iff.mp read
    have length : text.length % 4 ≠ 1 := by
      rw [written, List.length_append, List.length_map, whole]
      decide
    rw [decode_of_length length, bind_eq_ok_iff]
    refine ⟨_, read, refuse_eq_ok_iff.mpr ⟨not_not.mpr whole, ?_⟩⟩
    dsimp only
    rw [(ungroup?_eq_some_iff below).mpr ⟨spare, by omega, same⟩]
    rfl

/-- A text is read as some bytes exactly where it is what these bytes are written as. -/
theorem decode_eq_ok_iff {text : String} {bytes : Bytes} :
    decode (Text.Utf8.encode text) = .ok bytes ↔ text = encode bytes := by
  rw [decode_eq_ok_iff_regroups]
  constructor
  · intro given
    obtain ⟨list, padding, read, whole, stands⟩ := given
    obtain ⟨below, pads, written⟩ := values_eq_ok_iff.mp read
    rw [Nat.zero_add] at pads
    rw [(padding_iff (pads.known whole)).mp ⟨pads, whole⟩,
      (regroups_iff (by decide) below).mp stands] at written
    exact Text.Utf8.encode_injective (written.trans (utf8_encode bytes).symm)
  · intro same
    subst same
    have below : ∀ value ∈ regroup 6 bytes, value < 2 ^ 6 := fun _ member =>
      lt_of_mem_regroup member
    have stands := (regroups_iff (by decide) below).mpr (rfl : _ = regroup 6 bytes)
    have known : (regroup 6 bytes).length % 4 ≠ 1 := by
      obtain ⟨spare, small, same⟩ := stands
      have sized := ((bits_eq_iff below).mp same).1
      omega
    obtain ⟨pads, whole⟩ := (padding_iff known).mpr rfl
    refine ⟨_, _, values_eq_ok_iff.mpr ⟨below, ?_, utf8_encode bytes⟩, whole, stands⟩
    rwa [Nat.zero_add]

/-! ## Texts by their bits -/

/-- A text writes some bytes if it consists of symbols with the bits of these bytes, and of the pads that fill
the last group. -/
theorem eq_encode_iff_bits {text : String} {bytes : Bytes} : text = encode bytes ↔
    ∃ symbols : List Char, (∀ char ∈ symbols, char ∈ alphabet) ∧
      (∃ spare < 6, symbolBits alphabet 6 symbols = byteBits bytes ++ List.replicate spare 0) ∧
      text = String.ofList (symbols ++ List.replicate ((4 - symbols.length % 4) % 4) '=') := by
  have written (symbols : List Char) : symbols = (regroup 6 bytes).map (symbol alphabet) ↔ _ :=
    alphabet_good.eq_map_regroup_iff
  rw [encode_eq]
  constructor
  · intro same
    obtain ⟨known, stands⟩ := (written _).mp rfl
    exact ⟨_, known, stands, same⟩
  · intro given
    obtain ⟨symbols, known, stands, rfl⟩ := given
    rw [(written symbols).mpr ⟨known, stands⟩]

/-- The text of thirty-two bytes: forty-three symbols with their bits and two zeros, and one pad. -/
def HashText (hash : FixedBytes 32) (text : String) : Prop :=
  ∃ symbols : List Char, symbols.length = 43 ∧ (∀ char ∈ symbols, char ∈ alphabet) ∧
    symbolBits alphabet 6 symbols = byteBits hash.toList ++ [0, 0] ∧
    text = String.ofList (symbols ++ ['='])

theorem hashText_iff {hash : FixedBytes 32} {text : String} :
    HashText hash text ↔ text = encode hash.toList := by
  rw [eq_encode_iff_bits]
  constructor
  · intro given
    obtain ⟨symbols, sized, known, stands, rfl⟩ := given
    refine ⟨symbols, known, ⟨2, by decide, stands⟩, ?_⟩
    rw [sized]
    rfl
  · intro given
    obtain ⟨symbols, known, ⟨spare, small, stands⟩, rfl⟩ := given
    -- The bits of the symbols are 256 and fewer than six more.
    have lengths := congrArg List.length stands
    rw [length_symbolBits, List.length_append, length_byteBits, hash.length_toList,
      List.length_replicate] at lengths
    obtain ⟨sized, rfl⟩ : symbols.length = 43 ∧ spare = 2 := by omega
    refine ⟨symbols, sized, known, stands, ?_⟩
    rw [sized]
    rfl

theorem existsUnique_hashText (hash : FixedBytes 32) : ∃! text, HashText hash text := by
  refine ⟨encode hash.toList, hashText_iff.mpr rfl, fun text written => ?_⟩
  exact hashText_iff.mp written

end WalletTools.Base64
