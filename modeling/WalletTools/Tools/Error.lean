import WalletTools.Keystore.Error
import WalletTools.Node.Error
import WalletTools.Store.Database
import WalletTools.Tools.Output

/-! What can go wrong while a tool runs, and the steps of a tool: each may fail, may write, and may do
what the context allows. -/
namespace WalletTools.Tools

inductive Error
  /-- The output takes no more. -/
  | output
  | ledger (error : Ledger.Error)
  | node (error : Node.Error)
  | keystore (error : Keystore.Error)
  | store (fault : Store.Fault)
  /-- Some wallets are not exported. -/
  | incomplete (failed total : Nat)

namespace Error

/-- The wording, where it is not left to the transport or a reader. -/
def message? : Error → Option String
  | .output => some "Output error: output limit reached"
  | .ledger error => some error.message
  | .node error => error.message?
  | .keystore error => error.message?
  | .store fault => some s!"Wallet store error: {fault.message}"
  | .incomplete failed total => some s!"Failed to export {failed} of {total} wallets"

/-- Whether an error of the ledger comes from a deeper one. -/
def ledgerHasCause : Ledger.Error → Bool
  | .signature _ => true
  | _ => false

/-- Whether an error comes from a deeper one that can be asked for. -/
def hasCause : Error → Bool
  | .output => true
  | .ledger error => ledgerHasCause error
  | .node .transport => true
  | .node (.ledger _) => true
  | .node _ => false
  | .keystore (.file _) => true
  | .keystore (.json _) => true
  | .keystore _ => false
  | .store _ => true
  | .incomplete .. => false

end Error

/-- Steps of a tool in a context. -/
abbrev Command (m : Type → Type) := ExceptT Error (StateT Output m)

variable {m : Type → Type} [Monad m]

/-- Writes a text. What the output has no room for is lost, and that is an error. -/
def write (text : String) : Command m Unit := do
  let output ← get
  let bytes := Text.Utf8.encode text
  set (output.take bytes)
  if !output.hasRoom bytes.length then throw .output

/-- Writes a text and ends the line. -/
def writeLine (text : String) : Command m Unit := write (text ++ "\n")

/-- The outcome of a tool and what it has written. -/
def Command.start {α : Type} (command : Command m α) (limit? : Option Nat) :
    m (Except Error α × Bytes) := do
  let (outcome, output) ← (ExceptT.run command).run (.empty limit?)
  return (outcome, output.written)

end WalletTools.Tools
