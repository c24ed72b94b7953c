import WalletTools.Text.Utf8

/-! What is written: bytes, up to a limit if there is one. -/
namespace WalletTools.Tools

structure Output where
  /-- How many bytes are taken. -/
  limit? : Option Nat
  written : Bytes
deriving DecidableEq, Repr

namespace Output

/-- Nothing is written yet. -/
def empty (limit? : Option Nat) : Output := ⟨limit?, []⟩

/-- Takes bytes as far as the limit allows. -/
def take (output : Output) (bytes : Bytes) : Output :=
  match output.limit? with
  | none => { output with written := output.written ++ bytes }
  | some limit => { output with written := output.written ++ bytes.take (limit - output.written.length) }

/-- Whether so many more bytes can be taken. -/
def hasRoom (output : Output) (count : Nat) : Bool :=
  output.limit?.all (output.written.length + count ≤ ·)

end Output

end WalletTools.Tools
