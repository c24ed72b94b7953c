import WalletTools.Digest.Sha256

/-! Keyed digests over SHA-256. A key is kept as the two states that have absorbed its blocks, so
that many messages under one key pay for it once. -/
namespace WalletTools.Digest.Hmac

/-- A key, absorbed. -/
structure Key where
  inner : Sha256.State
  outer : Sha256.State

/-- A key of more than a block is replaced by its digest; a shorter one is filled with zeros. -/
def Key.ofBytes (key : Bytes) : Key :=
  let short := if 64 < key.length then (Sha256.hash key).toList else key
  let block := short ++ List.replicate (64 - short.length) 0
  ⟨Sha256.absorb Sha256.start (block.map (· ^^^ 0x36)),
   Sha256.absorb Sha256.start (block.map (· ^^^ 0x5c))⟩

/-- The keyed digest of a message. -/
def hash (key : Key) (message : Bytes) : FixedBytes 32 :=
  Sha256.finish key.outer 64 (Sha256.finish key.inner 64 message).toList

end WalletTools.Digest.Hmac
