import WalletTools.Ledger.Account
import WalletTools.Node.Confirmation
import WalletTools.Tools.Error
import WalletTools.Transfer.Options

/-! The tool that sends an amount from the account of a mnemonic to an address. It shows the balances
before and after, the identifier of the transaction and the node's record of it. -/
namespace WalletTools.Tools

open Ledger

/-- What both parties own. -/
structure Balances where
  sender : UInt64
  receiver : UInt64
deriving DecidableEq, Repr

/-- A transfer that is made. -/
structure TransferReport where
  sender : Address
  receiver : Address
  before : Balances
  after : Balances
  fee : UInt64
  id : String
  confirmation : Node.Pending

/-- A label, in green if colours are shown. -/
def label (color : Bool) (text : String) : String :=
  if color then "\x1b[32m" ++ text ++ "\x1b[0m" else text

/-- A call of a client as a step of a tool. -/
def ask {α : Type} (call : Node.Call α) : Command Node.Dialogue α := do
  match ← liftM (m := Node.Dialogue) call.run with
  | .ok value => return value
  | .error error => throw (.node error)

/-- A step that the ledger decides. -/
def check {α : Type} (outcome : Except Ledger.Error α) : Command Node.Dialogue α :=
  match outcome with
  | .ok value => return value
  | .error error => throw (.ledger error)

def fetchBalances (client : Node.Client) (sender receiver : Address) :
    Command Node.Dialogue Balances := do
  let senderInformation ← ask (client.account sender)
  let receiverInformation ← ask (client.account receiver)
  return ⟨senderInformation.amount, receiverInformation.amount⟩

def writeBalances (color : Bool) (balances : Balances) : Command Node.Dialogue Unit := do
  writeLine (label color "Sender account balance:" ++ s!"   {balances.sender} microAlgos")
  writeLine (label color "Receiver account balance:" ++ s!" {balances.receiver} microAlgos")

/-- Makes a transfer. -/
def transfer (client : Node.Client) (request : Transfer.Request) (color : Bool) :
    Command Node.Dialogue TransferReport := do
  let account ← check (Account.ofMnemonic request.senderMnemonic)
  let sender := account.address
  let receiver ← check (Address.parse request.receiver)
  let before ← fetchBalances client sender receiver
  writeBalances color before
  let params ← ask do
    liftM ((← client.transactionParams).toSuggested request.validityRounds)
  let transaction := Transaction.payment sender receiver request.amount params
  let signed ← check (account.sign transaction)
  let id ← ask (client.sendTransaction signed)
  writeLine (label color "Transaction ID:" ++ " " ++ id)
  let confirmation ← ask (client.awaitConfirmation id request.waitRounds)
  writeLine (label color "Transaction information:" ++ " " ++ confirmation.text)
  let after ← fetchBalances client sender receiver
  writeBalances color after
  return { sender, receiver, before, after, fee := transaction.fee, id, confirmation }

end WalletTools.Tools
