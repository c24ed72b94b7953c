import WalletTools.Curve.Edwards
import WalletTools.Digest.Sha512

/-! Ed25519 signatures: a seed of thirty-two bytes has a public key, and signs messages under it.
Checking a signature compares its first half, as bytes, with the one point the rest calls for. -/
namespace WalletTools.Curve.Ed25519

open Edwards

/-- The signing scalar and the nonce key of a seed. -/
def expand (seed : FixedBytes 32) : Nat × Bytes :=
  let digest := (Digest.Sha512.hash seed.toList).toList
  let number := Radix.ofBytes (digest.take 32)
  (number % 2 ^ 254 / 8 * 8 + 2 ^ 254, digest.drop 32)

/-- The number modulo the group order that the digest of a message denotes. -/
def scalar (message : Bytes) : Nat := Radix.ofBytes (Digest.Sha512.hash message).toList % order

/-- The public key of a seed. -/
def publicKey (seed : FixedBytes 32) : FixedBytes 32 :=
  (Point.base.mul (expand seed).1).compress

/-- The signature of a message by a seed. -/
def sign (seed : FixedBytes 32) (message : Bytes) : FixedBytes 64 :=
  let (secret, nonceKey) := expand seed
  let nonce := scalar (nonceKey ++ message)
  let commitment := (Point.base.mul nonce).compress
  let challenge := scalar (commitment.toList ++ (publicKey seed).toList ++ message)
  ⟨commitment.toList ++ Radix.toBytes 32 ((nonce + challenge * secret) % order), by
    simp [commitment.length_toList]⟩

/-- Why a signature is not accepted. -/
inductive Fault
  | notAPoint
  | largeScalar
  | equation
deriving DecidableEq, Repr

def Fault.message : Fault → String
  | .notAPoint => "signature error: Cannot decompress Edwards point"
  | .largeScalar => "signature error: Cannot use scalar with high-bit set"
  | .equation => "signature error: Verification equation was not satisfied"

/-- Whether a signature belongs to a message under a public key. The key may be any bytes that write
a point, and enters the challenge as given. -/
def verify (key : FixedBytes 32) (message : Bytes) (signature : FixedBytes 64) :
    Except Fault Unit := do
  let some point := Point.decompress? key | throw .notAPoint
  let commitment := signature.toList.take 32
  let response := Radix.ofBytes (signature.toList.drop 32)
  if order ≤ response then throw .largeScalar
  let challenge := scalar (commitment ++ key.toList ++ message)
  let expected := (Point.base.mul response).add (point.neg.mul challenge)
  if expected.compress.toList ≠ commitment then throw .equation

end WalletTools.Curve.Ed25519
