import Mathlib.Data.UInt
import WalletTools.Ledger.Fee
import WalletTools.Proofs.Ledger.Size

/-! The fee of a payment. It is worked out from the size that the payment has while the price of a byte
stands in the fee's place, which is no more than the size it has in the end and at most eight bytes less. -/
namespace WalletTools.Ledger

namespace Transaction

/-- The payment whose size its fee is worked out from. -/
def priced (transaction : Transaction) (params : SuggestedParams) : Transaction :=
  { transaction with fee := params.fee }

variable (transaction : Transaction) (params : SuggestedParams)

/-- The fee is all of a payment that is worked out. -/
theorem assignFee_eq :
    transaction.assignFee params = { transaction with fee := (transaction.assignFee params).fee } := by
  unfold assignFee
  dsimp only
  split <;> rfl

theorem toNat_fee_assignFee (rated : params.flatFee = false) :
    (transaction.assignFee params).fee.toNat =
      max (min (params.fee.toNat * (transaction.priced params).signedSize) (2 ^ 64 - 1))
        params.leastFee.toNat := by
  unfold assignFee
  rw [rated]
  change (max (mulCapped _ _) _).toNat = _
  rw [UInt64.toNat_max, mulCapped, toNat_cap]
  rfl

theorem signedSize_pos : 0 < transaction.signedSize := by
  rw [signedSize_eq]
  exact Nat.succ_pos _

theorem price_le_fee : params.fee.toNat ≤ (transaction.assignFee params).fee.toNat := by
  cases flat : params.flatFee with
  | true =>
    unfold assignFee
    rw [flat]
    exact Nat.le_refl _
  | false =>
    have grows : params.fee.toNat ≤ params.fee.toNat * (transaction.priced params).signedSize :=
      Nat.le_mul_of_pos_right _ (signedSize_pos _)
    have small := params.fee.toNat_lt
    rw [toNat_fee_assignFee transaction params flat]
    omega

/-! ## The size before and after -/

theorem signedSize_priced : (transaction.priced params).signedSize =
    { transaction with fee := 0 }.signedSize + numberSize 4 params.fee := by
  rw [priced, signedSize_fee, size_fee_eq]

theorem signedSize_assignFee : (transaction.assignFee params).signedSize =
    { transaction with fee := 0 }.signedSize + numberSize 4 (transaction.assignFee params).fee := by
  rw [assignFee_eq, signedSize_fee, size_fee_eq]

/-- The fee is no smaller than the price, so it takes no fewer bytes. -/
theorem signedSize_priced_le :
    (transaction.priced params).signedSize ≤ (transaction.assignFee params).signedSize := by
  rw [signedSize_priced, signedSize_assignFee]
  exact Nat.add_le_add_left (numberSize_mono 4 (price_le_fee transaction params)) _

theorem signedSize_assignFee_le (asked : params.fee ≠ 0) :
    (transaction.assignFee params).signedSize ≤ (transaction.priced params).signedSize + 8 := by
  have most := numberSize_le 4 asked (transaction.assignFee params).fee
  rw [signedSize_priced, signedSize_assignFee]
  omega

/-! ## Fair fees -/

/-- A fee between the price of all bytes of the signed payment and that of all but eight, where it is not
the least fee: neither more nor less is paid, and no price is above the largest number. -/
structure FairFee (params : SuggestedParams) (transaction : Transaction) : Prop where
  size (signature : FixedBytes 64) :
    (SignedTransaction.encode ⟨transaction, signature⟩).length = transaction.signedSize
  long : 8 ≤ transaction.signedSize
  enough : max (if params.minFee = 0 then 1000 else params.minFee.toNat)
      (min (2 ^ 64 - 1) (params.fee.toNat * (transaction.signedSize - 8))) ≤ transaction.fee.toNat
  fitting : transaction.fee.toNat ≤ max (if params.minFee = 0 then 1000 else params.minFee.toNat)
      (min (2 ^ 64 - 1) (params.fee.toNat * transaction.signedSize))

theorem toNat_leastFee :
    params.leastFee.toNat = if params.minFee = 0 then 1000 else params.minFee.toNat := by
  unfold SuggestedParams.leastFee
  split <;> rfl

theorem fairFee_assignFee (rated : params.flatFee = false) :
    FairFee params (transaction.assignFee params) := by
  have fee := toNat_fee_assignFee transaction params rated
  have least := toNat_leastFee params
  have high : params.fee.toNat * (transaction.priced params).signedSize ≤
      params.fee.toNat * (transaction.assignFee params).signedSize :=
    Nat.mul_le_mul_left _ (signedSize_priced_le transaction params)
  have low : params.fee.toNat * ((transaction.assignFee params).signedSize - 8) ≤
      params.fee.toNat * (transaction.priced params).signedSize := by
    by_cases free : params.fee = 0
    · -- Where a byte costs nothing, the two sizes may differ by more.
      have nothing : params.fee.toNat = 0 := congrArg UInt64.toNat free
      simp only [nothing, Nat.zero_mul, Nat.le_refl]
    · have close := signedSize_assignFee_le transaction params free
      exact Nat.mul_le_mul_left _ (by omega)
  refine ⟨fun signature => SignedTransaction.length_encode _, ?_, ?_, ?_⟩
  · rw [signedSize_eq]
    omega
  · rw [fee, ← least]
    omega
  · rw [fee, ← least]
    omega

/-- Unless the fee is flat, it is fair to the payment that is sent. -/
theorem fee_fair {params : SuggestedParams} (rated : params.flatFee = false) :
    (∀ sender receiver amount, FairFee params (payment sender receiver amount params)) ∧
    ∀ transaction note, FairFee params (withNote transaction note params) :=
  ⟨fun _ _ _ => fairFee_assignFee _ params rated, fun _ _ => fairFee_assignFee _ params rated⟩

/-- A network that asks for ten a byte. -/
private def ratedParams : SuggestedParams where
  fee := 10
  minFee := 1000
  firstValid := 1000
  lastValid := 2000
  genesisId := "testnet-v1.0"
  genesisHash := ⟨List.replicate 32 5, List.length_replicate⟩
  flatFee := false

/-- A payment to the address of zeros is charged for all of its bytes but the two by which the fee grows. -/
theorem fee_fair_rated : ratedParams.flatFee = false ∧
    FairFee ratedParams (payment ⟨ratedParams.genesisHash⟩ .zero 1000000 ratedParams) ∧
    (payment ⟨ratedParams.genesisHash⟩ .zero 1000000 ratedParams).fee = 2030 ∧
    (payment ⟨ratedParams.genesisHash⟩ .zero 1000000 ratedParams).signedSize = 205 := by
  refine ⟨rfl, (fee_fair rfl).1 _ _ _, ?_, ?_⟩
  · decide +kernel
  · decide +kernel

/-! ## Payments that are read -/

/-- Of all bytes that are read as a payment, alone or with a signature, those that are written for it are
the fewest; so no fee is worked out from more bytes than there are. -/
theorem encode_shortest :
    (∀ bytes transaction, decode bytes = .ok transaction → transaction.encode.length ≤ bytes.length) ∧
    ∀ bytes signed, SignedTransaction.decode bytes = .ok signed →
      signed.encode.length ≤ bytes.length ∧ signed.transaction.signedSize ≤ bytes.length ∧
      ∀ transaction params, signed.transaction = assignFee transaction params →
        (transaction.priced params).signedSize ≤ bytes.length := by
  refine ⟨fun bytes transaction read => length_encode_le (decode_eq_ok_iff.mp read), ?_⟩
  intro bytes signed read
  have shortest := SignedTransaction.length_signed_le (SignedTransaction.decode_eq_ok_iff.mp read)
  have size := SignedTransaction.length_encode signed
  refine ⟨shortest, size ▸ shortest, fun transaction params charged => ?_⟩
  have smaller := signedSize_priced_le transaction params
  rw [← charged, ← size] at smaller
  exact smaller.trans shortest

/-- A payment without fields whose number of entries takes two bytes more than it has to. -/
private def wideBytes : Bytes := [0xde, 0x00, 0x01, 0xa4, 0x74, 0x79, 0x70, 0x65, 0xa3, 0x70, 0x61, 0x79]

/-- The payment with a signature of zeros, where both numbers of entries do. -/
private def wideSigned : Bytes :=
  [0xde, 0x00, 0x02, 0xa3, 0x73, 0x69, 0x67, 0xc4, 0x40] ++ List.replicate 64 0 ++
    [0xa3, 0x74, 0x78, 0x6e] ++ wideBytes

/-- The payment is read from twelve bytes and written in ten, which are read as well; with its signature it
is read from eighty-nine and written in eighty-five. -/
theorem encode_shortest_wide :
    decode wideBytes = .ok blank ∧ blank.encode.length ≤ wideBytes.length ∧
    wideBytes.length = 12 ∧ blank.encode.length = 10 ∧ decode blank.encode = .ok blank ∧
    SignedTransaction.decode wideSigned = .ok ⟨blank, .zero 64⟩ ∧
    (SignedTransaction.encode ⟨blank, .zero 64⟩).length ≤ wideSigned.length ∧
    wideSigned.length = 89 ∧ (SignedTransaction.encode ⟨blank, .zero 64⟩).length = 85 ∧
    blank.signedSize = 85 ∧
    SignedTransaction.decode (SignedTransaction.encode ⟨blank, .zero 64⟩) = .ok ⟨blank, .zero 64⟩ := by
  have read : decode wideBytes = .ok blank := by decide
  have signed : SignedTransaction.decode wideSigned = .ok ⟨blank, .zero 64⟩ := by decide +kernel
  exact ⟨read, encode_shortest.1 _ _ read, rfl, by decide, by decide, signed,
    (encode_shortest.2 _ _ signed).1, by decide, by decide +kernel, by decide +kernel, by decide +kernel⟩

end Transaction

end WalletTools.Ledger
