import WalletTools.Bytes

/-! Markers of the MessagePack format. A family of markers announces a number, small ones within the
marker itself and others in one, two, four or eight bytes that follow it. -/
namespace WalletTools.MessagePack

/-- The markers `first`, `first + 1`, … hold the numbers below `count`; every wide marker is followed
by a number of so many bytes, the narrowest listed first. -/
structure Family where
  first : Nat
  count : Nat
  wide : List (UInt8 × Nat)
deriving DecidableEq, Repr

namespace Family

/-- The number of entries of a map. -/
def map : Family := ⟨0x80, 16, [(0xde, 2), (0xdf, 4)]⟩

/-- The number of elements of an array. -/
def array : Family := ⟨0x90, 16, [(0xdc, 2), (0xdd, 4)]⟩

/-- The number of bytes of a string. -/
def str : Family := ⟨0xa0, 32, [(0xd9, 1), (0xda, 2), (0xdb, 4)]⟩

/-- The number of bytes of a byte string. -/
def bin : Family := ⟨0, 0, [(0xc4, 1), (0xc5, 2), (0xc6, 4)]⟩

/-- An integer that is not negative. -/
def uint : Family := ⟨0, 128, [(0xcc, 1), (0xcd, 2), (0xce, 4), (0xcf, 8)]⟩

/-- The wide markers of integers with a sign. -/
def signed : List (UInt8 × Nat) := [(0xd0, 1), (0xd1, 2), (0xd2, 4), (0xd3, 8)]

end Family

end WalletTools.MessagePack
