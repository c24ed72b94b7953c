import WalletTools.CommandLine.Grammar
import WalletTools.Node.Settings

/-! The options of the transfer tool. What an option gives goes before the settings file, and that
before the standard settings. -/
namespace WalletTools.Transfer

/-- A transfer to make. -/
structure Request where
  senderMnemonic : String
  receiver : String
  amount : UInt64
  /-- For how many rounds the confirmation is waited for; zero is no limit. -/
  waitRounds : UInt64
  /-- For how many rounds the transaction stays valid. -/
  validityRounds : UInt64
deriving DecidableEq, Repr

/-- A transfer and the node to make it on. -/
structure Plan where
  node : Node.Settings
  request : Request
deriving DecidableEq, Repr

structure Options where
  address? : Option String
  token? : Option String
  senderMnemonic : String
  receiver : String
  amount : UInt64
  settingsFile? : Option String
  waitRounds? : Option UInt64
deriving DecidableEq, Repr

namespace Options

open CommandLine

def grammar : Grammar where
  settings := [
    ⟨'d', "algod_address", false, false, none⟩,
    ⟨'t', "algod_token", false, false, none⟩,
    ⟨'p', "sender_mnemonic", true, false, none⟩,
    ⟨'r', "receiver", true, false, none⟩,
    ⟨'a', "amount", false, true, some "1000000"⟩,
    ⟨'c', "config", false, false, none⟩,
    ⟨'w', "wait_rounds", false, true, none⟩]
  places := []

/-- The options of a command line that follows the grammar. -/
def ofGiven (given : Given) : Options :=
  let value? (word : String) := (given.valuesOf word).head?
  { address? := value? "algod_address"
    token? := value? "algod_token"
    senderMnemonic := (value? "sender_mnemonic").getD ""
    receiver := (value? "receiver").getD ""
    amount := (value? "amount" >>= count?).getD 0
    settingsFile? := value? "config"
    waitRounds? := value? "wait_rounds" >>= count? }

/-- The options of a command line. -/
def parse (arguments : List String) : Except CommandLine.Fault Options :=
  ofGiven <$> grammar.parse arguments

/-- The transfer that options ask for, where `read` reads files. -/
def resolve (options : Options) (read : String → File) : Except Node.Settings.Fault Plan := do
  let base ← match options.settingsFile? with
    | some path => Node.Settings.ofFile path (read path)
    | none => pure .standard
  let node : Node.Settings := { base with
    address := options.address?.getD base.address
    token := options.token?.getD base.token
    waitRounds := options.waitRounds?.getD base.waitRounds }
  return {
    node
    request := {
      senderMnemonic := options.senderMnemonic
      receiver := options.receiver
      amount := options.amount
      waitRounds := node.waitRounds
      validityRounds := node.validityRounds } }

end Options

end WalletTools.Transfer
