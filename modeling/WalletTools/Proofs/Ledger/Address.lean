import WalletTools.Ledger.Error
import WalletTools.Proofs.Encoding.Base32

/-! Addresses and their texts: a text is an address exactly where it is the text of that address. A text
that is refused is told to belong to another key exactly where it has the shape of an address, which is
described here by its symbols and their bits. The digest of a key may be any. -/
namespace WalletTools.Ledger.Address

open Radix

/-- Fifty-eight symbols, the last of which has its two lowest bits zero. -/
structure Shaped (text : String) : Prop where
  length : text.length = 58
  symbols : ∀ char ∈ text.toList, char ∈ Base32.alphabet
  spare : ∀ last ∈ text.toList.getLast?, Base32.alphabet.idxOf last % 4 = 0

/-- The bytes that the bits of a text are cut into, eight at a time; its last two bits are left over. -/
def Holds (text : String) (bytes : Bytes) : Prop := byteBits bytes = (Base32.bits text).take 288

/-- A text in the shape of an address whose last four bytes are not those of the digest of the others. -/
def Foreign (text : String) : Prop :=
  Shaped text ∧ ∃ bytes, Holds text bytes ∧
    bytes.drop 32 ≠ (Digest.Sha512.hashHalf (bytes.take 32)).toList.drop 28

/-! ## Shape -/

private theorem length_bits (text : String) : (Base32.bits text).length = 5 * text.length := by
  rw [← String.length_toList]
  exact length_symbolBits Base32.alphabet 5 text.toList

/-- The last two bits of a symbol are those that its value leaves over a multiple of four. -/
private theorem last_bits : ∀ value < 32, ((Radix.bitsOf 5 value).drop 3 = [0, 0] ↔ value % 4 = 0) := by
  decide

private theorem drop_bits {text : String} (length : text.length = 58)
    (last : text.toList.getLast? = some char) :
    (Base32.bits text).drop 288 = (Radix.bitsOf 5 (Base32.alphabet.idxOf char)).drop 3 := by
  obtain ⟨front, whole⟩ := List.getLast?_eq_some_iff.mp last
  have counted : front.length = 57 := by
    rw [← String.length_toList, whole, List.length_append] at length
    exact Nat.succ.inj length
  have sized := length_bits (String.ofList front)
  rw [Base32.bits, symbolBits, String.toList_ofList, String.length_ofList, counted] at sized
  rw [Base32.bits, symbolBits, whole, List.flatMap_append, List.drop_append, sized, List.drop_eq_nil_of_le]
  · simp
  · rw [sized]
    decide

/-- The texts in the shape of an address are those that write thirty-six bytes. -/
theorem shaped_and_holds_iff {text : String} {bytes : Bytes} :
    Shaped text ∧ Holds text bytes ↔ text = Base32.encode bytes ∧ bytes.length = 36 := by
  rw [Base32.eq_encode_iff_bits]
  constructor
  · intro given
    -- Of the 290 bits, 288 are those of the bytes; the last symbol tells that the others are zero.
    obtain ⟨shaped, holds⟩ := given
    obtain ⟨last, ending⟩ : ∃ last, text.toList.getLast? = some last := by
      apply Option.isSome_iff_exists.mp
      rw [List.getLast?_isSome, ← List.length_pos_iff, String.length_toList, shaped.length]
      decide
    have listed := List.idxOf_lt_length_iff.mpr (shaped.symbols last (List.mem_of_getLast? ending))
    have zeros := (last_bits _ listed).mpr (shaped.spare last ending)
    rw [← drop_bits shaped.length ending] at zeros
    have sized := congrArg List.length holds
    rw [length_byteBits, List.length_take, length_bits, shaped.length] at sized
    refine ⟨⟨shaped.symbols, 2, by decide, ?_⟩, by omega⟩
    rw [holds, List.replicate_succ, List.replicate_one, ← zeros, List.take_append_drop]
  · intro given
    obtain ⟨⟨symbols, spare, small, same⟩, sized⟩ := given
    have lengths := congrArg List.length same
    rw [length_bits, List.length_append, length_byteBits, List.length_replicate, sized] at lengths
    obtain ⟨length, rfl⟩ : text.length = 58 ∧ spare = 2 := by omega
    have front : (byteBits bytes).length = 288 := by rw [length_byteBits, sized]
    refine ⟨⟨length, symbols, fun last ending => ?_⟩, ?_⟩
    · have listed := List.idxOf_lt_length_iff.mpr (symbols last (List.mem_of_getLast? ending))
      apply (last_bits _ listed).mp
      rw [← drop_bits length ending, same, List.drop_left' front]
      rfl
    · rw [Holds, same, List.take_left' front]

/-! ## Reading -/

theorem length_checksum (address : Address) : address.checksum.length = 4 := by
  rw [checksum, List.length_drop, FixedBytes.length_toList]

private theorem length_utf8_encode {bytes : Bytes} (sized : bytes.length = 36) :
    (Text.Utf8.encode (Base32.encode bytes)).length = textLength := by
  have below : ∀ value ∈ Radix.regroup 5 bytes, value < 2 ^ 5 := fun _ member => lt_of_mem_regroup member
  rw [Base32.encode_eq, Base32.alphabet_good.encode_symbols below, List.length_map, length_regroup, sized]
  rfl

/-- A text is split into a key and four bytes exactly where it writes the two one after the other. -/
theorem split_eq_ok_iff {text : String} {address : Address} {sum : Bytes} :
    split text = .ok (address, sum) ↔
      text = Base32.encode (address.publicKey.toList ++ sum) ∧ sum.length = 4 := by
  unfold split
  simp only [refuse_eq_ok_iff, bind_eq_ok_iff, mapError_eq_ok_iff, Base32.decode_eq_ok_iff, ne_eq,
    not_not]
  constructor
  · intro success
    obtain ⟨_, bytes, rfl, success⟩ := success
    split at success
    · rename_i sized
      cases success
      refine ⟨?_, by rw [List.length_drop, sized]⟩
      exact congrArg Base32.encode (List.take_append_drop 32 bytes).symm
    · cases success
  · intro given
    obtain ⟨rfl, four⟩ := given
    have sized : (address.publicKey.toList ++ sum).length = 36 := by
      rw [List.length_append, address.publicKey.length_toList, four]
    refine ⟨length_utf8_encode sized, _, rfl, ?_⟩
    rw [dif_pos sized]
    have key : (address.publicKey.toList ++ sum).take 32 = address.publicKey.toList :=
      List.take_left' address.publicKey.length_toList
    have rest : (address.publicKey.toList ++ sum).drop 32 = sum :=
      List.drop_left' address.publicKey.length_toList
    exact congrArg Except.ok (Prod.ext (congrArg Address.mk (FixedBytes.ext key)) rest)

/-- Fifty-eight symbols hold thirty-six bytes, so no text is refused for the number of its bytes. -/
theorem split_ne_decodedLength (text : String) (size : Nat) :
    split text ≠ .error (.decodedLength size) := by
  intro failed
  unfold split at failed
  by_cases counted : (Text.Utf8.encode text).length = textLength
  · simp only [counted, ne_eq, not_true_eq_false, if_false] at failed
    rcases bind_eq_error_iff.mp failed with refused | ⟨bytes, read, short⟩
    · obtain ⟨fault, _, told⟩ := mapError_eq_error_iff.mp refused
      cases told
    · have sized := Base32.length_of_decode (mapError_eq_ok_iff.mp read)
      rw [counted] at sized
      rw [dif_pos (show bytes.length = 36 from sized)] at short
      cases short
  · rw [if_pos counted] at failed
    cases failed

/-! ## Texts and addresses -/

theorem parse_eq_ok_iff_split {text : String} {address : Address} :
    parse text = .ok address ↔ split text = .ok (address, address.checksum) := by
  unfold parse
  rw [bind_eq_ok_iff]
  constructor
  · intro success
    obtain ⟨⟨found, sum⟩, read, success⟩ := success
    obtain ⟨same, done⟩ := refuse_eq_ok_iff.mp success
    cases done
    rw [not_not.mp same]
    exact mapError_eq_ok_iff.mp read
  · intro read
    refine ⟨_, mapError_eq_ok_iff.mpr read, refuse_eq_ok_iff.mpr ⟨?_, rfl⟩⟩
    exact fun different => different rfl

theorem parse_eq_error_iff_split {text : String} {error : Error} : parse text = .error error ↔
    (∃ fault, split text = .error fault ∧ error = .address text fault) ∨
      ∃ address sum, split text = .ok (address, sum) ∧ address.checksum ≠ sum ∧
        error = .addressChecksum text := by
  unfold parse
  rw [bind_eq_error_iff, mapError_eq_error_iff]
  refine or_congr Iff.rfl ?_
  constructor
  · intro failed
    obtain ⟨⟨address, sum⟩, read, failed⟩ := failed
    rcases refuse_eq_error_iff.mp failed with ⟨different, told⟩ | ⟨_, done⟩
    · exact ⟨address, sum, mapError_eq_ok_iff.mp read, different, told⟩
    · cases done
  · intro given
    obtain ⟨address, sum, read, different, told⟩ := given
    exact ⟨_, mapError_eq_ok_iff.mpr read, refuse_eq_error_iff.mpr (.inl ⟨different, told⟩)⟩

theorem parse_eq_ok_iff {text : String} {address : Address} :
    parse text = .ok address ↔ text = address.toText := by
  rw [parse_eq_ok_iff_split, split_eq_ok_iff, and_iff_left address.length_checksum, toText]

theorem foreign_iff_split {text : String} :
    Foreign text ↔ ∃ address sum, split text = .ok (address, sum) ∧ address.checksum ≠ sum := by
  constructor
  · intro foreign
    obtain ⟨shaped, bytes, holds, different⟩ := foreign
    obtain ⟨rfl, sized⟩ := shaped_and_holds_iff.mp ⟨shaped, holds⟩
    refine ⟨⟨.take 32 bytes (by omega)⟩, bytes.drop 32, split_eq_ok_iff.mpr ⟨?_, ?_⟩, different.symm⟩
    · exact congrArg Base32.encode (List.take_append_drop 32 bytes).symm
    · rw [List.length_drop, sized]
  · intro given
    obtain ⟨address, sum, read, different⟩ := given
    obtain ⟨rfl, four⟩ := split_eq_ok_iff.mp read
    have key := address.publicKey.length_toList
    have sized : (address.publicKey.toList ++ sum).length = 36 := by rw [List.length_append, key, four]
    obtain ⟨shaped, holds⟩ := shaped_and_holds_iff.mpr ⟨rfl, sized⟩
    refine ⟨shaped, _, holds, ?_⟩
    rw [List.drop_left' key, List.take_left' key]
    exact different.symm

/-- A text is an address exactly where it is the text of that address. A text that is no address has the
wrong checksum exactly where it has the shape of an address, and is ill-formed in every other case, but
never for the number of its bytes. -/
theorem parse_inverts_toText :
    (∀ text address, parse text = .ok address ↔ text = address.toText) ∧
    (∀ text told, parse text = .error (.addressChecksum told) ↔ told = text ∧ Foreign text) ∧
    (∀ text, (∃ fault, parse text = .error (.address text fault)) ↔
      ¬ Foreign text ∧ ∀ address : Address, text ≠ address.toText) ∧
    ∀ text told size, parse text ≠ .error (.address told (.decodedLength size)) := by
  refine ⟨fun _ _ => parse_eq_ok_iff, ?_, ?_, ?_⟩
  · intro text told
    rw [parse_eq_error_iff_split, foreign_iff_split]
    constructor
    · intro failed
      rcases failed with ⟨_, _, ill⟩ | ⟨address, sum, read, different, same⟩
      · cases ill
      · cases same
        exact ⟨rfl, address, sum, read, different⟩
    · intro given
      obtain ⟨rfl, address, sum, read, different⟩ := given
      exact .inr ⟨address, sum, read, different, rfl⟩
  · intro text
    rw [foreign_iff_split]
    constructor
    · intro failed
      obtain ⟨fault, failed⟩ := failed
      rcases parse_eq_error_iff_split.mp failed with ⟨_, refused, _⟩ | ⟨_, _, _, _, other⟩
      · refine ⟨fun foreign => ?_, fun address success => ?_⟩
        · obtain ⟨_, _, read, _⟩ := foreign
          cases refused.symm.trans read
        · cases failed.symm.trans (parse_eq_ok_iff.mpr success)
      · cases other
    · intro given
      obtain ⟨ours, unread⟩ := given
      cases read : split text with
      | error fault => exact ⟨fault, parse_eq_error_iff_split.mpr (.inl ⟨fault, read, rfl⟩)⟩
      | ok found =>
        obtain ⟨address, sum⟩ := found
        by_cases same : address.checksum = sum
        · subst same
          exact absurd (parse_eq_ok_iff.mp (parse_eq_ok_iff_split.mpr read)) (unread address)
        · exact absurd ⟨address, sum, read, same⟩ ours
  · intro text told size failed
    rcases parse_eq_error_iff_split.mp failed with ⟨fault, refused, same⟩ | ⟨_, _, _, _, other⟩
    · cases same
      exact split_ne_decodedLength text size refused
    · cases other

end WalletTools.Ledger.Address
