import WalletTools.Node.Client

/-! Waiting for a transaction to be confirmed, round by round. -/
namespace WalletTools.Node.Client

variable (client : Client)

/-- Looks for a transaction at every round from `round` on, so many times at most. A transaction that
the node does not know yet may still come; one that it has dropped will not. -/
def awaitFrom (id : String) (waitRounds : UInt64) : (left : Nat) → (round : UInt64) → Call Pending
  | 0, _ => throw (.timeout id waitRounds)
  | left + 1, round => do
    match ← liftM (client.pendingTransaction id).run with
    | .ok pending =>
      if pending.isConfirmed then return pending
      if pending.poolError ≠ "" then throw (.rejected id pending.poolError)
    | .error error => if !error.isNotFound then throw error
    discard (client.statusAfterBlock round)
    awaitFrom id waitRounds left (round + 1)

/-- The round up to which a confirmation is waited for; no rounds to wait for are no limit. -/
def lastRound (start waitRounds : UInt64) : UInt64 :=
  if waitRounds = 0 then Ledger.largest else Ledger.addCapped start waitRounds

/-- The transaction once it is confirmed, if that happens within so many rounds. -/
def awaitConfirmation (id : String) (waitRounds : UInt64) : Call Pending := do
  let start := Ledger.addCapped (← client.status).lastRound 1
  client.awaitFrom id waitRounds ((lastRound start waitRounds).toNat - start.toNat) start

end WalletTools.Node.Client
