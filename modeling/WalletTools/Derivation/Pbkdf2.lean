import WalletTools.Digest.Hmac
import WalletTools.Radix

/-! Keys derived from a password by repeated keyed digests. -/
namespace WalletTools.Derivation.Pbkdf2

/-- Adds the next `count` digests of a chain to a sum. -/
def chain (key : Digest.Hmac.Key) : (count : Nat) → (last sum : Bytes) → Bytes
  | 0, _, sum => sum
  | count + 1, last, sum =>
    let next := (Digest.Hmac.hash key last).toList
    chain key count next (List.zipWith (· ^^^ ·) sum next)

/-- The block of thirty-two bytes with a number counted from one. A count of no rounds acts like one
round. -/
def block (key : Digest.Hmac.Key) (salt : Bytes) (rounds number : Nat) : Bytes :=
  let first := (Digest.Hmac.hash key (salt ++ (Radix.toBytes 4 number).reverse)).toList
  chain key (rounds - 1) first first

/-- The first `size` bytes of the blocks. -/
def derive (password salt : Bytes) (rounds size : Nat) : Bytes :=
  let key := Digest.Hmac.Key.ofBytes password
  ((List.range ((size + 31) / 32)).flatMap fun index => block key salt rounds (index + 1)).take size

end WalletTools.Derivation.Pbkdf2
