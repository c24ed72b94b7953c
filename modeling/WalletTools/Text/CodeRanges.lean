/-! Sets of code points, given as ranges with both ends. -/
namespace WalletTools.Text

/-- The first and the last code point of every range. -/
abbrev CodeRanges := Array (Nat × Nat)

/-- Whether a character lies in one of the ranges. -/
def CodeRanges.contains (ranges : CodeRanges) (char : Char) : Bool :=
  ranges.any fun (first, last) => first ≤ char.toNat && char.toNat ≤ last

end WalletTools.Text
