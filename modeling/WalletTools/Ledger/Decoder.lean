import WalletTools.Ledger.Error
import WalletTools.MessagePack.Reader

/-! Steps of decoding a record: a step gives a value or an error, and in either case the bytes that are
left. -/
namespace WalletTools.Ledger

/-- A step of decoding a record. -/
abbrev Decoder := ExceptT Error (StateM Bytes)

/-- A reading step as a step of decoding. -/
def Decoder.read {α : Type} (reader : MessagePack.Reader α) : Decoder α :=
  ExceptT.adapt (fun fault => .decoding (.messagePack fault)) reader

/-- Takes a step so many times, each from the state that the one before it has reached. -/
def Decoder.repeated {σ : Type} (step : σ → Decoder σ) : (count : Nat) → σ → Decoder σ
  | 0, state => return state
  | count + 1, state => do repeated step count (← step state)

/-- The record at the start of bytes that have to end with it. -/
def Decoder.whole {α : Type} (decoder : Decoder α) (record : RecordKind) : Decoder α := do
  let value ← decoder
  let rest ← get
  if rest ≠ [] then throw (.decoding (.trailing rest.length record))
  return value

/-- The value that bytes decode to. -/
def Decoder.decode {α : Type} (decoder : Decoder α) (bytes : Bytes) : Except Error α :=
  (decoder.run bytes).1

end WalletTools.Ledger
