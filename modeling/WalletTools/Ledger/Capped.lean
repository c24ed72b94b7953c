import WalletTools.Powers

/-! Numbers of sixty-four bits that stop at the largest one instead of wrapping. -/
namespace WalletTools.Ledger

/-- The largest number of sixty-four bits. -/
def largest : UInt64 := UInt64.ofNat (2 ^ 64 - 1)

/-- The largest number that is not above `value`. -/
def cap (value : Nat) : UInt64 := UInt64.ofNat (min value (2 ^ 64 - 1))

@[simp] theorem toNat_cap (value : Nat) : (cap value).toNat = min value (2 ^ 64 - 1) := by
  have small : min value (2 ^ 64 - 1) < 2 ^ 64 := by omega
  rw [cap, UInt64.toNat_ofNat', Nat.mod_eq_of_lt small]

def addCapped (left right : UInt64) : UInt64 := cap (left.toNat + right.toNat)

/-- The price of so many units. -/
def mulCapped (price : UInt64) (count : Nat) : UInt64 := cap (price.toNat * count)

end WalletTools.Ledger
