import WalletTools.Proofs.Encoding.Alphabet
import WalletTools.Proofs.Encoding.Regrouping

/-! Symbols by their bits. Where an alphabet has a symbol for each group of so many bits, the symbols that are
written for some bytes are those of the alphabet that have the bits of these bytes, and behind them zeros that
fill the last symbol. -/
namespace WalletTools

open Radix

/-- The bits of symbols, each by its place in the alphabet. -/
def symbolBits (alphabet : List Char) (width : Nat) (symbols : List Char) : List Nat :=
  symbols.flatMap fun char => bitsOf width (alphabet.idxOf char)

theorem length_symbolBits (alphabet : List Char) (width : Nat) (symbols : List Char) :
    (symbolBits alphabet width symbols).length = width * symbols.length := by
  induction symbols with
  | nil => rfl
  | cons char rest ih =>
    rw [symbolBits, List.flatMap_cons, List.length_append, ← symbolBits, ih, bitsOf, List.length_reverse,
      length_digits, List.length_cons, Nat.mul_succ, Nat.add_comm]

namespace IsAlphabet

variable {alphabet symbols : List Char} {width : Nat} {bytes : Bytes}

/-- Symbols write the bytes whose bits they have. -/
theorem eq_map_regroup_iff (good : IsAlphabet width alphabet) :
    symbols = (regroup width bytes).map (symbol alphabet) ↔
      (∀ char ∈ symbols, char ∈ alphabet) ∧
        ∃ spare < width, symbolBits alphabet width symbols = byteBits bytes ++ List.replicate spare 0 := by
  have named : symbolBits alphabet width symbols =
      (symbols.map alphabet.idxOf).flatMap (bitsOf width) := by
    rw [List.flatMap_map]
    rfl
  rw [named]
  constructor
  · intro same
    subst same
    have places : ((regroup width bytes).map (symbol alphabet)).map alphabet.idxOf =
        regroup width bytes := by
      rw [List.map_map]
      exact (List.map_congr_left fun value member =>
        good.idxOf_symbol (lt_of_mem_regroup member)).trans (List.map_id _)
    refine ⟨fun char member => ?_, ?_⟩
    · obtain ⟨value, listed, rfl⟩ := List.mem_map.mp member
      exact good.symbol_mem (lt_of_mem_regroup listed)
    · rw [places]
      exact (regroups_iff good.positive fun _ => lt_of_mem_regroup).mpr rfl
  · intro given
    obtain ⟨known, stands⟩ := given
    have below : ∀ value ∈ symbols.map alphabet.idxOf, value < 2 ^ width := by
      intro value member
      obtain ⟨char, listed, rfl⟩ := List.mem_map.mp member
      exact good.idxOf_lt (known char listed)
    rw [← (regroups_iff good.positive below).mp stands, List.map_map]
    exact ((List.map_congr_left fun char member =>
      symbol_idxOf (known char member)).trans (List.map_id _)).symm

end IsAlphabet

end WalletTools
