import WalletTools.Tools.Export
import WalletTools.Tools.Extract
import WalletTools.Tools.Options
import WalletTools.Tools.Transfer

/-! The tools as they are run: a command line in, an exit code and what is written out. -/
namespace WalletTools.Tools

inductive Tool
  | send
  | exportKeys
  | extractKey
deriving DecidableEq, Repr

namespace Tool

def name : Tool → String
  | .send => "algo-send"
  | .exportKeys => "export-keys"
  | .extractKey => "extract-key"

/-- The tool of a name. -/
def ofName? (name : String) : Option Tool :=
  [Tool.send, .exportKeys, .extractKey].find? (·.name = name)

/-- The files that a tool looks at for a command line. -/
def sources (tool : Tool) (arguments : List String) : List String :=
  match tool with
  | .send => ((Transfer.Options.parse arguments).toOption.bind (·.settingsFile?)).toList
  | .extractKey => ((ExtractOptions.parse arguments).toOption.map (·.keystore)).toList
  | .exportKeys =>
    match ExportOptions.parse arguments with
    | .ok options => (List.range options.count).map (rootKeyPath options.directory)
    | .error _ => []

/-- The file that a tool makes, before it looks at any other. -/
def target? (tool : Tool) (arguments : List String) : Option String :=
  match tool with
  | .exportKeys => (ExportOptions.parse arguments).toOption.map (·.target)
  | _ => none

end Tool

/-- What a tool finds where it is run. -/
structure Surroundings where
  read : String → File
  openStore : String → Except Store.Fault Store.Database
  /-- Whether a file can be made at a path. -/
  canCreate : String → Bool
  /-- Whether the output shows colours. -/
  color : Bool

/-- What a tool leaves behind. -/
structure Outcome where
  exitCode : Nat
  /-- What is written to the standard output. -/
  output : Bytes
  /-- The file that is written, by its path. -/
  file? : Option (String × Bytes)
deriving DecidableEq, Repr

namespace Outcome

/-- Nothing is written. -/
def quiet (exitCode : Nat) : Outcome := ⟨exitCode, [], none⟩

/-- The exit code of a command line that is not run: asking for help is no mistake. -/
def ofFault : CommandLine.Fault → Outcome
  | .help => quiet 0
  | .version => quiet 0
  | _ => quiet 1

/-- The exit code of a tool that has ended: an error is told by one, breaking off by another. -/
def exitCodeOf {α : Type} : Except Error α → Nat
  | .ok _ => 0
  | .error (.keystore (.defect _)) => 101
  | .error _ => 1

end Outcome

/-- Lists wallets into a file, which is made before the first wallet is read. -/
def runExport (surroundings : Surroundings) (options : ExportOptions) : Outcome :=
  if !surroundings.canCreate options.target then .quiet 1
  else
    let openStore (path : String) :=
      if path = options.target then .ok [] else surroundings.openStore path
    let (ended, written) :=
      Command.start (exportWallets openStore options.directory options.count) none
    ⟨Outcome.exitCodeOf ended, [], some (options.target, written)⟩

/-- Writes the key of a keystore to the standard output. -/
def runExtract (surroundings : Surroundings) (options : ExtractOptions) : Outcome :=
  let (ended, written) :=
    Command.start (extract (surroundings.read options.keystore) options.password) none
  ⟨Outcome.exitCodeOf ended, written, none⟩

/-- Makes a transfer. -/
def runSend (surroundings : Surroundings) (options : Transfer.Options) : Node.Dialogue Outcome :=
  match options.resolve surroundings.read with
  | .error _ => return .quiet 1
  | .ok plan =>
    match Node.Client.ofAddress plan.node.address plan.node.token with
    | .error _ => return .quiet 1
    | .ok client => do
      let (ended, written) ← Command.start (transfer client plan.request surroundings.color) none
      return ⟨Outcome.exitCodeOf ended, written, none⟩

/-- Runs a tool. -/
def Tool.run (tool : Tool) (surroundings : Surroundings) (arguments : List String) :
    Node.Dialogue Outcome :=
  match tool with
  | .send =>
    match Transfer.Options.parse arguments with
    | .error fault => return .ofFault fault
    | .ok options => runSend surroundings options
  | .exportKeys =>
    match ExportOptions.parse arguments with
    | .error fault => return .ofFault fault
    | .ok options => return runExport surroundings options
  | .extractKey =>
    match ExtractOptions.parse arguments with
    | .error fault => return .ofFault fault
    | .ok options => return runExtract surroundings options

end WalletTools.Tools
