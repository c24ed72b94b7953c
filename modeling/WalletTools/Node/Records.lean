import WalletTools.Json.Shape
import WalletTools.Ledger.Fee
import WalletTools.Node.Error

/-! The records that a node answers with. -/
namespace WalletTools.Node

open Json

/-- A member that has to be there. -/
def required (name : String) (kind : Kind) : Field := ⟨name, kind, none⟩

/-- A text that may be missing. -/
def optionalText (name : String) : Field := ⟨name, .text, some ""⟩

/-- A count that may be missing. -/
def optionalCount (name : String) : Field := ⟨name, .count, some (0 : UInt64)⟩

/-- How far a node has come. -/
structure Status where
  lastRound : UInt64
  lastVersion : String
  /-- In nanoseconds. -/
  timeSinceLastRound : UInt64
deriving DecidableEq, Repr

def Status.shape : Shape Status where
  title := "NodeStatus"
  fields := [required "last-round" .count, optionalText "last-version",
    optionalCount "time-since-last-round"]
  build := fun (lastRound, lastVersion, timeSinceLastRound, _) =>
    ⟨lastRound, lastVersion, timeSinceLastRound⟩
  parts status := (status.lastRound, status.lastVersion, status.timeSinceLastRound, ())

/-- What a node tells of an account. -/
structure AccountInformation where
  address : String
  amount : UInt64
  amountWithoutPendingRewards : UInt64
  status : String
deriving DecidableEq, Repr

def AccountInformation.shape : Shape AccountInformation where
  title := "AccountInformation"
  fields := [required "address" .text, required "amount" .count,
    optionalCount "amount-without-pending-rewards", optionalText "status"]
  build := fun (address, amount, amountWithoutPendingRewards, status, _) =>
    ⟨address, amount, amountWithoutPendingRewards, status⟩
  parts account :=
    (account.address, account.amount, account.amountWithoutPendingRewards, account.status, ())

/-- What a node asks of the next transactions. -/
structure TransactionParams where
  consensusVersion : String
  /-- The price of a byte. -/
  fee : UInt64
  /-- In base 64. -/
  genesisHash : String
  genesisId : String
  lastRound : UInt64
  minFee : UInt64
deriving DecidableEq, Repr

def TransactionParams.shape : Shape TransactionParams where
  title := "TransactionParams"
  fields := [required "consensus-version" .text, required "fee" .count,
    required "genesis-hash" .text, required "genesis-id" .text, required "last-round" .count,
    optionalCount "min-fee"]
  build := fun (consensusVersion, fee, genesisHash, genesisId, lastRound, minFee, _) =>
    ⟨consensusVersion, fee, genesisHash, genesisId, lastRound, minFee⟩
  parts params := (params.consensusVersion, params.fee, params.genesisHash, params.genesisId,
    params.lastRound, params.minFee, ())

/-- The parameters of a transaction that is valid for so many rounds behind the last one. -/
def TransactionParams.toSuggested (params : TransactionParams) (validityRounds : UInt64) :
    Except Error Ledger.SuggestedParams := do
  let bytes ← (Base64.decode (Text.Utf8.encode params.genesisHash)).mapError
    fun fault => .invalidResponse (.genesisHash fault)
  match FixedBytes.ofList? bytes with
  | none => throw (.invalidResponse (.genesisHashSize bytes.length))
  | some genesisHash =>
    return {
      fee := params.fee
      minFee := params.minFee
      firstValid := params.lastRound
      lastValid := Ledger.addCapped params.lastRound validityRounds
      genesisId := params.genesisId
      genesisHash
      flatFee := false }

/-- What a node answers to a transaction that it takes. -/
structure Posted where
  id : String
deriving DecidableEq, Repr

def Posted.shape : Shape Posted where
  title := "PostTransactionsResponse"
  fields := [required "txId" .text]
  build := fun (id, _) => ⟨id⟩
  parts posted := (posted.id, ())

/-- What a node answers when it fails. -/
structure Refusal where
  message : String
deriving DecidableEq, Repr

def Refusal.shape : Shape Refusal where
  title := "ErrorResponse"
  fields := [required "message" .text]
  build := fun (message, _) => ⟨message⟩
  parts refusal := (refusal.message, ())

/-- A transaction as a node knows it: its whole record, which is an object. -/
structure Pending where
  record : Json
  object : record.isObject = true

namespace Pending

/-- The transaction of a record. -/
def ofRecord (record : Json) : Except Error Pending :=
  if object : record.isObject = true then .ok ⟨record, object⟩
  else .error (.invalidResponse (.record record))

/-- The round that the transaction is confirmed in. -/
def confirmedRound? (pending : Pending) : Option UInt64 :=
  pending.record.member? "confirmed-round" >>= Json.natural?

/-- Why the node has dropped the transaction; empty if it has not. -/
def poolError (pending : Pending) : String :=
  (pending.record.member? "pool-error" >>= Json.text?).getD ""

def isConfirmed (pending : Pending) : Bool := 0 < pending.confirmedRound?.getD 0

def text (pending : Pending) : String := pending.record.compact

end Pending

end WalletTools.Node
