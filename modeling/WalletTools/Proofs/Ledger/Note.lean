import WalletTools.Proofs.Ledger.Fee

/-! Notes. A note takes the place of the note that was there, and the fee is worked out anew from the rest of
the payment: earlier notes, the parameters they came with and an earlier fee leave no trace. -/
namespace WalletTools.Ledger

/-- What is charged for so many bytes: the fee itself where it is flat, else the price of all of them, which
stops at the largest number, and no less than the least fee. -/
def SuggestedParams.charge (params : SuggestedParams) (size : Nat) : Nat :=
  if params.flatFee then params.fee.toNat
  else max (min (params.fee.toNat * size) (2 ^ 64 - 1)) params.leastFee.toNat

namespace Transaction

theorem toNat_fee_eq_charge (transaction : Transaction) (params : SuggestedParams) :
    (transaction.assignFee params).fee.toNat =
      params.charge (transaction.priced params).signedSize := by
  unfold SuggestedParams.charge
  split
  · rename_i flat
    unfold assignFee
    rw [if_pos flat]
  · rename_i rated
    exact toNat_fee_assignFee transaction params (Bool.eq_false_iff.mpr rated)

/-- What no note touches: a payment without its fee and its note. -/
def body (transaction : Transaction) : Transaction := { transaction with fee := 0, note := [] }

/-- A note and the parameters that it is attached under. -/
structure Attachment where
  note : Bytes
  params : SuggestedParams

/-- The payment with one more note. -/
def attach (transaction : Transaction) (attachment : Attachment) : Transaction :=
  transaction.withNote attachment.note attachment.params

/-- The fee that a payment comes with is not looked at. -/
theorem assignFee_fee (transaction : Transaction) (fee : UInt64) (params : SuggestedParams) :
    { transaction with fee }.assignFee params = transaction.assignFee params := rfl

theorem withNote_body (transaction : Transaction) (note : Bytes) (params : SuggestedParams) :
    transaction.body.withNote note params = transaction.withNote note params :=
  assignFee_fee { transaction with note } 0 params

/-- Payments with the same body are the same once they have the same note. -/
theorem withNote_congr {left right : Transaction} (same : left.body = right.body) (note : Bytes)
    (params : SuggestedParams) : left.withNote note params = right.withNote note params := by
  rw [← withNote_body left, same, withNote_body]

theorem withNote_eq (transaction : Transaction) (note : Bytes) (params : SuggestedParams) :
    transaction.withNote note params =
      { transaction with note, fee := (transaction.withNote note params).fee } :=
  assignFee_eq { transaction with note } params

theorem body_withNote (transaction : Transaction) (note : Bytes) (params : SuggestedParams) :
    (transaction.withNote note params).body = transaction.body := by
  rw [withNote_eq]
  rfl

/-- However many notes are attached, the body stays. -/
theorem body_attachments (attachments : List Attachment) (transaction : Transaction) :
    (attachments.foldl attach transaction).body = transaction.body := by
  induction attachments generalizing transaction with
  | nil => rfl
  | cons first later ih =>
    rw [List.foldl_cons, ih, attach, body_withNote]

/-- A payment whose fee is not worked out yet. -/
def uncharged (sender receiver : Address) (amount : UInt64) (params : SuggestedParams) : Transaction where
  sender := sender
  receiver := receiver
  amount := amount
  fee := params.fee
  firstValid := params.firstValid
  lastValid := params.lastValid
  genesisId := params.genesisId
  genesisHash := params.genesisHash
  note := []

theorem payment_eq_withNote (sender receiver : Address) (amount : UInt64) (params : SuggestedParams) :
    payment sender receiver amount params =
      (uncharged sender receiver amount params).withNote [] params := rfl

/-- The fee of a new payment is forgotten with the first note. -/
theorem payment_withNote (sender receiver : Address) (amount : UInt64) (params : SuggestedParams)
    (note : Bytes) (later : SuggestedParams) :
    (payment sender receiver amount params).withNote note later =
      (uncharged sender receiver amount params).withNote note later := by
  rw [payment_eq_withNote]
  exact withNote_congr (body_withNote _ _ _) note later

/-- Attaching a note replaces the note and works out the fee, which is charged for the size of the payment
with that note and the price of a byte for its fee. So neither an earlier note nor an earlier fee matters, a
new payment stands as if the empty note had been attached, and of several notes the last alone counts. -/
theorem withNote_forgets :
    (∀ transaction first second params later,
      withNote (withNote transaction first params) second later = withNote transaction second later) ∧
    (∀ transaction fee note params,
      withNote { transaction with fee } note params = withNote transaction note params) ∧
    (∀ transaction note params, ∃ fee,
      withNote transaction note params = { transaction with note, fee } ∧
        fee.toNat = params.charge { transaction with note, fee := params.fee }.signedSize) ∧
    (∀ sender receiver amount params,
      withNote (payment sender receiver amount params) [] params =
        payment sender receiver amount params) ∧
    ∀ transaction attachments last,
      (attachments ++ [last]).foldl attach transaction = attach transaction last := by
  refine ⟨?_, ?_, ?_, ?_, ?_⟩
  · intro transaction first second params later
    exact withNote_congr (body_withNote transaction first params) second later
  · intro transaction fee note params
    exact withNote_congr rfl note params
  · intro transaction note params
    exact ⟨_, withNote_eq transaction note params, toNat_fee_eq_charge { transaction with note } params⟩
  · intro sender receiver amount params
    rw [payment_withNote, ← payment_eq_withNote]
  · intro transaction attachments last
    rw [List.foldl_append, List.foldl_cons, List.foldl_nil]
    exact withNote_congr (body_attachments attachments transaction) last.note last.params

end Transaction

end WalletTools.Ledger
