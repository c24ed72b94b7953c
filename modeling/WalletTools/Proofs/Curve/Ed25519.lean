import Mathlib.Tactic.DefEqTransformations
import WalletTools.Curve.Ed25519
import WalletTools.Proofs.Curve.Compression
import WalletTools.Proofs.Except

/-! Signatures. What a seed signs is accepted under its public key: the response is the nonce and as much of
the secret as the challenge asks for, and taking that much of the key away leaves the commitment. -/
namespace WalletTools.Curve.Ed25519

open Edwards

/-- A signature is accepted if the key is a point, the response is reduced, and the response without what
the challenge asks of the key is the commitment. -/
theorem verify_eq_ok_iff {key : FixedBytes 32} {message : Bytes} {signature : FixedBytes 64} :
    verify key message signature = .ok () ↔ ∃ point, Point.decompress? key = some point ∧
      Radix.ofBytes (signature.toList.drop 32) < order ∧
      ((Point.base.mul (Radix.ofBytes (signature.toList.drop 32))).add
        (point.neg.mul (scalar (signature.toList.take 32 ++ key.toList ++ message)))).compress.toList =
          signature.toList.take 32 := by
  -- The definition is unfolded as a function. Of an application the kernel would compute the point.
  have unfolded : verify = verify := rfl
  conv at unfolded => rhs; delta verify
  rw [unfolded]
  beta_reduce
  cases Point.decompress? key with
  | none => exact ⟨nofun, fun given => nomatch given.choose_spec.1⟩
  | some point =>
    dsimp only
    rw [refuse_eq_ok_iff, Nat.not_le]
    constructor
    · intro accepted
      obtain ⟨small, accepted⟩ := accepted
      split at accepted
      · cases accepted
      · rename_i holds
        exact ⟨point, rfl, small, not_not.mp holds⟩
    · intro given
      obtain ⟨_, same, small, holds⟩ := given
      cases same
      exact ⟨small, if_neg (not_not.mpr holds)⟩

theorem publicKey_eq (seed : FixedBytes 32) : publicKey seed = encode ((expand seed).1 • base) :=
  (represents_base.mul _).compress_eq

/-- The response, without what the challenge asks of the key, is the nonce. -/
theorem response_smul_base (nonce challenge secret : Nat) :
    ((nonce + challenge * secret) % order) • base + challenge • -(secret • base) = nonce • base := by
  rw [mod_order_smul_base, add_smul, mul_smul, smul_neg, add_neg_cancel_right]

/-- A signature commits to a nonce and answers the challenge. -/
theorem exists_nonce (seed : FixedBytes 32) (message : Bytes) : ∃ nonce,
    (sign seed message).toList.take 32 = (encode (nonce • base)).toList ∧
    Radix.ofBytes ((sign seed message).toList.drop 32) = (nonce + scalar
      ((sign seed message).toList.take 32 ++ (publicKey seed).toList ++ message) * (expand seed).1) %
        order := by
  let nonce := scalar ((expand seed).2 ++ message)
  let commitment := (Point.base.mul nonce).compress
  have written : commitment = encode (nonce • base) := (represents_base.mul nonce).compress_eq
  have parts : (sign seed message).toList = commitment.toList ++ Radix.toBytes 32 ((nonce + scalar
      (commitment.toList ++ (publicKey seed).toList ++ message) * (expand seed).1) % order) := rfl
  have front : (sign seed message).toList.take 32 = commitment.toList := by
    rw [parts, List.take_left' commitment.length_toList]
  have reduced (number : Nat) : number % order < 256 ^ 32 :=
    (Nat.mod_lt number (by decide)).trans (by decide)
  refine ⟨nonce, ?_, ?_⟩
  · rw [front, written]
  · rw [front, parts, List.drop_left' commitment.length_toList, Radix.ofBytes_toBytes,
      Nat.mod_eq_of_lt (reduced _)]

/-- What a seed signs is accepted under its public key. -/
theorem verify_sign (seed : FixedBytes 32) (message : Bytes) :
    verify (publicKey seed) message (sign seed message) = .ok () := by
  obtain ⟨nonce, commitment, response⟩ := exists_nonce seed message
  obtain ⟨point, read, stands⟩ := exists_decompress? ((expand seed).1 • base)
  have sum := (represents_base.mul (Radix.ofBytes ((sign seed message).toList.drop 32))).add
    (stands.neg.mul (scalar ((sign seed message).toList.take 32 ++ (publicKey seed).toList ++ message)))
  refine verify_eq_ok_iff.mpr ⟨point, (publicKey_eq seed).symm ▸ read, ?_, ?_⟩
  · rw [response]
    exact Nat.mod_lt _ (by decide)
  · rw [sum.compress_eq, response, response_smul_base, commitment]

end WalletTools.Curve.Ed25519
