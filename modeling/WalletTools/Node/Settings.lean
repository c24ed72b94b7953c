import WalletTools.Files
import WalletTools.Json.Shape

/-! How a node is reached and how long it is waited for. -/
namespace WalletTools.Node

structure Settings where
  address : String
  token : String
  /-- For how many rounds a confirmation is waited for. -/
  waitRounds : UInt64
  /-- For how many rounds a new transaction stays valid. -/
  validityRounds : UInt64
deriving DecidableEq, Repr

namespace Settings

/-- The settings of a private network on this machine. -/
def standard : Settings where
  address := "http://localhost:8022"
  token := String.ofList (List.replicate 64 'a')
  waitRounds := 10
  validityRounds := 1000

instance : Inhabited Settings := ⟨standard⟩

open Json in
/-- The members of a settings file; every one may be missing. -/
def shape : Shape Settings where
  title := "AlgodConfig"
  fields := [⟨"address", .text, some standard.address⟩, ⟨"token", .text, some standard.token⟩,
    ⟨"wait_rounds", .count, some standard.waitRounds⟩,
    ⟨"validity_rounds", .count, some standard.validityRounds⟩]
  build := fun (address, token, waitRounds, validityRounds, _) =>
    ⟨address, token, waitRounds, validityRounds⟩
  parts settings :=
    (settings.address, settings.token, settings.waitRounds, settings.validityRounds, ())

/-- Why a file holds no settings. -/
inductive Fault
  | file (path : String) (fault : FileFault)
  | json (path : String) (fault : Json.Fault)
deriving DecidableEq, Repr

def Fault.message : Fault → String
  | .file path _ => s!"Failed to read config file {path}"
  | .json path _ => s!"Failed to parse config file {path}"

/-- The settings of a file. -/
def ofFile (path : String) (file : File) : Except Fault Settings := do
  let text ← file.text.mapError (.file path)
  (shape.parse text).mapError (.json path)

end Settings

end WalletTools.Node
