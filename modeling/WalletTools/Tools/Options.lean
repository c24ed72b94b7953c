import WalletTools.CommandLine.Grammar

/-! The options of the tools that ask no node: values by position only. -/
namespace WalletTools.Tools

open CommandLine

structure ExportOptions where
  /-- Where the files of the wallets are. -/
  directory : String
  /-- How many wallets there are. -/
  count : Nat
  /-- The path of the list to write. -/
  target : String
deriving DecidableEq, Repr

namespace ExportOptions

def grammar : Grammar where
  settings := []
  places := [⟨"net_root", false⟩, ⟨"count", true⟩, ⟨"chain_config", false⟩]

/-- The options of a command line. -/
def parse (arguments : List String) : Except Fault ExportOptions := do
  let given ← grammar.parse arguments
  let place (index : Nat) := given.places.getD index ""
  return ⟨place 0, ((count? (place 1)).getD 0).toNat, place 2⟩

end ExportOptions

structure ExtractOptions where
  keystore : String
  password : String
deriving DecidableEq, Repr

namespace ExtractOptions

def grammar : Grammar where
  settings := []
  places := [⟨"keystore", false⟩, ⟨"password", false⟩]

/-- The options of a command line. -/
def parse (arguments : List String) : Except Fault ExtractOptions := do
  let given ← grammar.parse arguments
  return ⟨given.places.getD 0 "", given.places.getD 1 ""⟩

end ExtractOptions

end WalletTools.Tools
