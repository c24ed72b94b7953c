import WalletTools.Ledger.Capped
import WalletTools.Ledger.SignedTransaction

/-! Payments built from the parameters of a network. The fee is a price for every byte of the signed
payment, but no less than a minimum; it is worked out while the price itself stands in its place. -/
namespace WalletTools.Ledger

/-- What a network asks of a transaction. -/
structure SuggestedParams where
  /-- The price of a byte, or the whole fee if it is flat. -/
  fee : UInt64
  minFee : UInt64
  firstValid : UInt64
  lastValid : UInt64
  genesisId : String
  genesisHash : FixedBytes 32
  flatFee : Bool
deriving DecidableEq

/-- The least fee of a network that names none. -/
def defaultMinFee : UInt64 := 1000

/-- The least fee under some parameters. -/
def SuggestedParams.leastFee (params : SuggestedParams) : UInt64 :=
  if params.minFee = 0 then defaultMinFee else params.minFee

namespace Transaction

/-- The payment with the fee that the parameters ask for. -/
def assignFee (transaction : Transaction) (params : SuggestedParams) : Transaction :=
  let priced := { transaction with fee := params.fee }
  if params.flatFee then priced
  else
    let price := mulCapped params.fee priced.signedSize
    { priced with fee := max price params.leastFee }

/-- A payment under the parameters of a network. -/
def payment (sender receiver : Address) (amount : UInt64) (params : SuggestedParams) : Transaction :=
  assignFee
    { sender, receiver, amount
      fee := params.fee
      firstValid := params.firstValid
      lastValid := params.lastValid
      genesisId := params.genesisId
      genesisHash := params.genesisHash
      note := [] }
    params

/-- The payment with a note and the fee of the larger payment. -/
def withNote (transaction : Transaction) (note : Bytes) (params : SuggestedParams) : Transaction :=
  assignFee { transaction with note } params

end Transaction

end WalletTools.Ledger
