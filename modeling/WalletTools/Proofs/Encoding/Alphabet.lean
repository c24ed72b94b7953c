import Mathlib.Data.List.Nodup
import WalletTools.Encoding.Symbols
import WalletTools.Proofs.Text.Words

/-! Alphabets of characters that one byte writes: a byte stands for one place in the alphabet at most,
and a text of such characters has as many bytes as characters. -/
namespace WalletTools

/-- The byte that writes a character of one byte. -/
def byteOf (char : Char) : UInt8 := UInt8.ofNat char.toNat

theorem toNat_byteOf {char : Char} (ascii : char.toNat < 128) : (byteOf char).toNat = char.toNat :=
  UInt8.toNat_ofNat_of_lt' (show char.toNat < 256 by omega)

theorem byteOf_eq_iff {char : Char} {byte : UInt8} (ascii : char.toNat < 128) :
    char.toNat = byte.toNat ↔ byte = byteOf char := by
  rw [← UInt8.toNat_inj, toNat_byteOf ascii]
  exact eq_comm

theorem Text.Utf8.encode_ofList {list : List Char} (ascii : ∀ char ∈ list, char.toNat < 128) :
    encode (String.ofList list) = list.map byteOf := by
  rw [encode_eq_flatMap, String.toList_ofList, List.map_eq_flatMap]
  refine List.flatMap_congr fun char member => ?_
  unfold String.utf8EncodeChar
  rw [if_pos (show char.val.toNat ≤ 0x7f from Nat.le_of_lt_succ (ascii char member))]
  rfl

theorem Text.Utf8.encode_injective {left right : String} (same : encode left = encode right) :
    left = right := by
  have read := decode_encode left
  rw [same, decode_encode right] at read
  exact (Except.ok.inj read).symm

open Radix

/-- An alphabet has one symbol of one byte for each value of so many bits. -/
structure IsAlphabet (width : Nat) (alphabet : List Char) : Prop where
  positive : 0 < width
  length : alphabet.length = 2 ^ width
  ascii : ∀ char ∈ alphabet, char.toNat < 128
  distinct : alphabet.Nodup

namespace IsAlphabet

variable {width : Nat} {alphabet : List Char}

/-- An alphabet is checked symbol by symbol. -/
theorem of_all (positive : 0 < width) (length : alphabet.length = 2 ^ width)
    (ascii : alphabet.all (·.toNat < 128) = true) (distinct : alphabet.Nodup) : IsAlphabet width alphabet :=
  ⟨positive, length, fun char member => of_decide_eq_true (List.all_eq_true.mp ascii char member), distinct⟩

theorem symbol_idxOf {char : Char} (member : char ∈ alphabet) :
    symbol alphabet (alphabet.idxOf char) = char := by
  have listed := List.idxOf_lt_length_iff.mpr member
  rw [symbol, List.getD_eq_getElem?_getD, List.getElem?_eq_getElem listed, Option.getD_some,
    List.getElem_idxOf listed]

variable (good : IsAlphabet width alphabet)
include good

theorem symbol_eq_getElem {value : Nat} (small : value < 2 ^ width) :
    ∃ listed : value < alphabet.length, symbol alphabet value = alphabet[value] := by
  have listed : value < alphabet.length := good.length ▸ small
  refine ⟨listed, ?_⟩
  rw [symbol, List.getD_eq_getElem?_getD, List.getElem?_eq_getElem listed, Option.getD_some]

theorem symbol_mem {value : Nat} (small : value < 2 ^ width) : symbol alphabet value ∈ alphabet := by
  obtain ⟨listed, same⟩ := good.symbol_eq_getElem small
  rw [same]
  exact List.getElem_mem listed

theorem idxOf_symbol {value : Nat} (small : value < 2 ^ width) :
    alphabet.idxOf (symbol alphabet value) = value := by
  obtain ⟨listed, same⟩ := good.symbol_eq_getElem small
  rw [same]
  exact good.distinct.idxOf_getElem value listed

theorem idxOf_lt {char : Char} (member : char ∈ alphabet) : alphabet.idxOf char < 2 ^ width :=
  good.length ▸ List.idxOf_lt_length_iff.mpr member

theorem symbolValue?_eq_some_iff {byte : UInt8} {value : Nat} :
    symbolValue? alphabet byte = some value ↔
      value < 2 ^ width ∧ byte = byteOf (symbol alphabet value) := by
  have written (place : Nat) (listed : place < alphabet.length) :
      (alphabet[place].toNat == byte.toNat) = true ↔ byte = byteOf alphabet[place] := by
    rw [beq_iff_eq, byteOf_eq_iff (good.ascii _ (List.getElem_mem listed))]
  rw [symbolValue?, List.findIdx?_eq_some_iff_getElem]
  constructor
  · intro found
    obtain ⟨listed, matching, _⟩ := found
    have small : value < 2 ^ width := good.length ▸ listed
    obtain ⟨_, same⟩ := good.symbol_eq_getElem small
    exact ⟨small, same ▸ (written value listed).mp matching⟩
  · intro given
    obtain ⟨small, byte⟩ := given
    obtain ⟨listed, same⟩ := good.symbol_eq_getElem small
    rw [same] at byte
    refine ⟨listed, (written value listed).mpr byte, fun earlier before matching => ?_⟩
    -- Another place with this byte would hold the same character.
    have again := (written earlier (by omega)).mp matching
    have codes := congrArg UInt8.toNat (byte.symm.trans again)
    rw [toNat_byteOf (good.ascii _ (List.getElem_mem listed)),
      toNat_byteOf (good.ascii _ (List.getElem_mem _))] at codes
    have places := good.distinct.getElem_inj_iff.mp (Char.ext (UInt32.toNat_inj.mp codes))
    omega

/-- Symbols are written by one byte each. -/
theorem encode_symbols {list : List Nat} (below : ∀ value ∈ list, value < 2 ^ width) :
    Text.Utf8.encode (String.ofList (list.map (symbol alphabet))) =
      list.map fun value => byteOf (symbol alphabet value) := by
  rw [Text.Utf8.encode_ofList, List.map_map]
  · rfl
  · intro char member
    obtain ⟨value, listed, rfl⟩ := List.mem_map.mp member
    exact good.ascii _ (good.symbol_mem (below value listed))

end IsAlphabet

end WalletTools
