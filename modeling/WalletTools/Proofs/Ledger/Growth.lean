import WalletTools.Proofs.Ledger.Note

/-! Larger payments cost no less. A field takes no fewer bytes for a larger number or a longer note, however
the widths of numbers and lengths change and whether or not a field is left out; so a payment that is larger
in any of these is no shorter once it is signed, and the fee that is charged for it is no lower. -/
namespace WalletTools.Ledger

/-- More bytes at a higher price are charged no less. -/
theorem SuggestedParams.charge_mono {params dearer : SuggestedParams} (flat : params.flatFee = dearer.flatFee)
    (least : params.minFee = dearer.minFee) (price : params.fee.toNat ≤ dearer.fee.toNat)
    {size larger : Nat} (sizes : size ≤ larger) : params.charge size ≤ dearer.charge larger := by
  have whole : params.fee.toNat * size ≤ dearer.fee.toNat * larger := Nat.mul_le_mul price sizes
  unfold charge leastFee
  rw [flat, least]
  split
  · exact price
  · omega

namespace Transaction

open MessagePack

/-- Payments between the same parties, in the same rounds of the same network, of which the second moves no
less, pays no lower a fee and has no shorter a note. -/
structure NoLarger (less more : Transaction) : Prop where
  sender : less.sender = more.sender
  receiver : less.receiver = more.receiver
  firstValid : less.firstValid = more.firstValid
  lastValid : less.lastValid = more.lastValid
  genesisId : less.genesisId = more.genesisId
  genesisHash : less.genesisHash = more.genesisHash
  amount : less.amount ≤ more.amount
  fee : less.fee ≤ more.fee
  note : less.note.length ≤ more.note.length
  fits : more.note.length < 2 ^ 32

/-- A number is left out where a larger one is. -/
private theorem zero_of_le {less more : UInt64} (le : less ≤ more) (zero : more = 0) : less = 0 := by
  subst zero
  exact UInt64.toNat_inj.mp (Nat.le_zero.mp (UInt64.le_iff_toNat_le.mp le))

/-- A note is left out where a longer one is. -/
private theorem nil_of_le {less more : Bytes} (le : less.length ≤ more.length) (empty : more = []) :
    less = [] := by
  subst empty
  exact List.eq_nil_of_length_eq_zero (Nat.le_zero.mp le)

namespace NoLarger

variable {less more : Transaction}

/-- No field of the smaller payment takes more bytes than that of the larger one. -/
theorem size_le (within : NoLarger less more) (field : Field) :
    field.size (less.value field) ≤ field.size (more.value field) := by
  cases field with
  | amount =>
    exact Field.size_le (zero_of_le within.amount)
      (length_writeUInt_mono (UInt64.le_iff_toNat_le.mp within.amount))
  | fee =>
    exact Field.size_le (zero_of_le within.fee)
      (length_writeUInt_mono (UInt64.le_iff_toNat_le.mp within.fee))
  | note => exact Field.size_le (nil_of_le within.note) (length_writeBin_mono within.note within.fits)
  | firstValid => exact Nat.le_of_eq (congrArg (Field.size .firstValid) within.firstValid)
  | lastValid => exact Nat.le_of_eq (congrArg (Field.size .lastValid) within.lastValid)
  | genesisId => exact Nat.le_of_eq (congrArg (Field.size .genesisId) within.genesisId)
  | genesisHash => exact Nat.le_of_eq (congrArg (Field.size .genesisHash) within.genesisHash)
  | receiver =>
    exact Nat.le_of_eq (congrArg (Field.size .receiver) (congrArg Address.publicKey within.receiver))
  | sender => exact Nat.le_of_eq (congrArg (Field.size .sender) (congrArg Address.publicKey within.sender))
  | type => exact Nat.le_refl _

theorem signedSize_le (within : NoLarger less more) : less.signedSize ≤ more.signedSize :=
  Transaction.signedSize_le within.size_le

/-- Fees are worked out from payments that have the price of a byte for their fee, so it is enough that these
are ordered. -/
theorem assignFee {params dearer : SuggestedParams} (flat : params.flatFee = dearer.flatFee)
    (least : params.minFee = dearer.minFee)
    (within : NoLarger (less.priced params) (more.priced dearer)) :
    NoLarger (less.assignFee params) (more.assignFee dearer) := by
  have charged : (less.assignFee params).fee ≤ (more.assignFee dearer).fee := by
    rw [UInt64.le_iff_toNat_le, toNat_fee_eq_charge, toNat_fee_eq_charge]
    exact SuggestedParams.charge_mono flat least (UInt64.le_iff_toNat_le.mp within.fee)
      within.signedSize_le
  rw [assignFee_eq less, assignFee_eq more]
  exact { within with fee := charged }

end NoLarger

/-- Where no more is asked for a byte, no more is moved and the note is no longer, the fee is no higher and
the signed payment is no longer. -/
theorem fee_and_size_mono (sender receiver : Address) (params : SuggestedParams)
    {rate dearer amount larger : UInt64} {note longer : Bytes} (rates : rate ≤ dearer)
    (amounts : amount ≤ larger) (notes : note.length ≤ longer.length) (fits : longer.length < 2 ^ 32) :
    let less := withNote (payment sender receiver amount { params with fee := rate }) note
      { params with fee := rate }
    let more := withNote (payment sender receiver larger { params with fee := dearer }) longer
      { params with fee := dearer }
    less.fee ≤ more.fee ∧ less.signedSize ≤ more.signedSize := by
  intro less more
  have within : NoLarger less more := by
    have first : less = (uncharged sender receiver amount { params with fee := rate }).withNote note
        { params with fee := rate } := payment_withNote _ _ _ _ _ _
    have second : more = (uncharged sender receiver larger { params with fee := dearer }).withNote longer
        { params with fee := dearer } := payment_withNote _ _ _ _ _ _
    rw [first, second]
    exact NoLarger.assignFee rfl rfl ⟨rfl, rfl, rfl, rfl, rfl, rfl, amounts, rates, notes, fits⟩
  exact ⟨within.fee, within.signedSize_le⟩

/-- A network that names no hash and whose least fee is below the price of any payment. -/
private def cheapParams : SuggestedParams where
  fee := 0
  minFee := 1
  firstValid := 1000
  lastValid := 2000
  genesisId := "testnet-v1.0"
  genesisHash := .zero 32
  flatFee := false

/-- A payment to oneself of an amount, with a note, at the price of a byte. -/
private def noted (price amount : UInt64) (note : Bytes) : Transaction :=
  withNote (payment .zero .zero amount { cheapParams with fee := price }) note
    { cheapParams with fee := price }

/-- The price of a byte, the amount and the length of the note all come to take another byte: each payment
is charged for all of its bytes but those by which its fee grows. -/
theorem fee_and_size_mono_wider :
    (127 : UInt64) ≤ 128 ∧ (255 : UInt64) ≤ 256 ∧
      (List.replicate 255 1 : Bytes).length ≤ (List.replicate 256 2 : Bytes).length ∧
      (List.replicate 256 2 : Bytes).length < 2 ^ 32 ∧
    let less := noted 127 255 (List.replicate 255 1)
    let more := noted 128 256 (List.replicate 256 2)
    less.fee ≤ more.fee ∧ less.signedSize ≤ more.signedSize ∧
      less.fee = 127 * 387 ∧ more.fee = 128 * 391 ∧ less.signedSize = 389 ∧ more.signedSize = 392 := by
  have prices : (127 : UInt64) ≤ 128 := by decide
  have amounts : (255 : UInt64) ≤ 256 := by decide
  have notes : (List.replicate 255 1 : Bytes).length ≤ (List.replicate 256 2 : Bytes).length := by
    rw [List.length_replicate, List.length_replicate]
    decide
  have fits : (List.replicate 256 2 : Bytes).length < 2 ^ 32 := by
    rw [List.length_replicate]
    decide
  obtain ⟨fees, sizes⟩ := fee_and_size_mono .zero .zero cheapParams prices amounts notes fits
  exact ⟨prices, amounts, notes, fits, fees, sizes, by decide +kernel, by decide +kernel, by decide +kernel,
    by decide +kernel⟩

end Transaction

end WalletTools.Ledger
