import WalletTools.Powers

/-! Byte strings, and byte strings whose length is part of their type. -/
namespace WalletTools

/-- A byte string. -/
abbrev Bytes := List UInt8

/-- A byte string of exactly `n` bytes. -/
structure FixedBytes (n : Nat) where
  toList : Bytes
  length_toList : toList.length = n
deriving DecidableEq

namespace FixedBytes

variable {n : Nat}

@[ext] theorem ext {left right : FixedBytes n} (same : left.toList = right.toList) : left = right := by
  cases left; cases right; cases same; rfl

/-- All bytes zero: the value of an absent field. -/
def zero (n : Nat) : FixedBytes n := ⟨List.replicate n 0, List.length_replicate⟩

instance : Inhabited (FixedBytes n) := ⟨zero n⟩

/-- A byte string of the right length, and nothing else. -/
def ofList? (bytes : Bytes) : Option (FixedBytes n) :=
  if sized : bytes.length = n then some ⟨bytes, sized⟩ else none

theorem ofList?_toList (value : FixedBytes n) : ofList? value.toList = some value := by
  simp [ofList?, value.length_toList]

theorem ofList?_eq_some_iff {bytes : Bytes} {value : FixedBytes n} :
    ofList? bytes = some value ↔ bytes = value.toList := by
  constructor
  · intro found
    unfold ofList? at found
    split at found
    · cases found; rfl
    · cases found
  · rintro rfl; exact ofList?_toList value

/-- The first `n` bytes of a byte string that has as many. -/
def take (n : Nat) (bytes : Bytes) (enough : n ≤ bytes.length) : FixedBytes n :=
  ⟨bytes.take n, by simp [enough]⟩

/-- True of the all-zero value only. -/
def isZero (value : FixedBytes n) : Bool := decide (value = zero n)

theorem isZero_iff {value : FixedBytes n} : value.isZero = true ↔ value = zero n := by
  simp [isZero]

end FixedBytes

end WalletTools
