import WalletTools.Curve.Modular
import WalletTools.Radix

/-! The curve `y² = x³ + 7` over the integers modulo `2 ^ 256 - 2 ^ 32 - 977`, with its base point: a
private key is a factor below the group's order, its public key the multiple of the base point. -/
namespace WalletTools.Curve.Secp256k1

/-- The prime of the field. -/
def fieldPrime : Nat := 2 ^ 256 - 2 ^ 32 - 977

/-- The order of the base point. -/
def order : Nat := 0xfffffffffffffffffffffffffffffffebaaedce6af48a03bbfd25e8cd0364141

def sub (left right : Nat) : Nat := Modular.sub fieldPrime left right
def mul (left right : Nat) : Nat := Modular.mul fieldPrime left right

/-- A point in weighted coordinates, `x / z²` and `y / z³`; the point at infinity has `z` zero. -/
structure Point where
  x : Nat
  y : Nat
  z : Nat

def Point.infinity : Point := ⟨1, 1, 0⟩

def Point.base : Point :=
  ⟨0x79be667ef9dcbbac55a06295ce870b07029bfcdb2dce28d959f2815b16f81798,
   0x483ada7726a3c4655da4fbfc0e1108a8fd17b448a68554199c47d08ffb10d4b8, 1⟩

def Point.double (point : Point) : Point :=
  let square := mul point.y point.y
  let s := mul 4 (mul point.x square)
  let m := mul 3 (mul point.x point.x)
  let x := sub (mul m m) (mul 2 s)
  ⟨x, sub (mul m (sub s x)) (mul 8 (mul square square)), mul 2 (mul point.y point.z)⟩

def Point.add (left right : Point) : Point :=
  if left.z = 0 then right
  else if right.z = 0 then left
  else
    let leftSquare := mul left.z left.z
    let rightSquare := mul right.z right.z
    let u := mul left.x rightSquare
    let v := mul right.x leftSquare
    let s := mul left.y (mul rightSquare right.z)
    let t := mul right.y (mul leftSquare left.z)
    let h := sub v u
    let r := sub t s
    if h = 0 then
      if r = 0 then left.double else .infinity
    else
      let hSquare := mul h h
      let hCube := mul hSquare h
      let w := mul u hSquare
      let x := sub (sub (mul r r) hCube) (mul 2 w)
      ⟨x, sub (mul r (sub w x)) (mul s hCube), mul h (mul left.z right.z)⟩

/-- A multiple of a point, by doubling once for every bit of the factor, the highest first. -/
def Point.mul (factor : Nat) (point : Point) : Point :=
  (List.range (factor.log2 + 1)).foldr
    (fun bit sum => if factor.testBit bit then sum.double.add point else sum.double)
    .infinity

/-- The sixty-four bytes of a point's coordinates, most significant first. -/
def Point.toBytes (point : Point) : Bytes :=
  let inverse := Modular.inverse fieldPrime point.z
  let square := Secp256k1.mul inverse inverse
  (Radix.toBytes 32 (Secp256k1.mul point.x square)).reverse ++
    (Radix.toBytes 32 (Secp256k1.mul point.y (Secp256k1.mul square inverse))).reverse

/-- The number of a private key, which lies above zero and below the group's order. -/
def privateNumber? (key : FixedBytes 32) : Option Nat :=
  let number := Radix.ofBytes key.toList.reverse
  if 0 < number ∧ number < order then some number else none

/-- The coordinates of the public key of a private key. -/
def publicKey? (key : FixedBytes 32) : Option Bytes :=
  (privateNumber? key).map fun number => (Point.base.mul number).toBytes

end WalletTools.Curve.Secp256k1
