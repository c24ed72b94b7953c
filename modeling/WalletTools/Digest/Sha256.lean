import WalletTools.Bytes

/-! SHA-256. A message is absorbed block by block into eight words; a digest can also be continued
from words that have absorbed whole blocks already, which is how a keyed digest keeps its key. -/
namespace WalletTools.Digest.Sha256

/-- The additive constant of each round. -/
def constants : Array UInt32 :=
  #[0x428a2f98, 0x71374491, 0xb5c0fbcf, 0xe9b5dba5, 0x3956c25b, 0x59f111f1, 0x923f82a4, 0xab1c5ed5,
   0xd807aa98, 0x12835b01, 0x243185be, 0x550c7dc3, 0x72be5d74, 0x80deb1fe, 0x9bdc06a7, 0xc19bf174,
   0xe49b69c1, 0xefbe4786, 0x0fc19dc6, 0x240ca1cc, 0x2de92c6f, 0x4a7484aa, 0x5cb0a9dc, 0x76f988da,
   0x983e5152, 0xa831c66d, 0xb00327c8, 0xbf597fc7, 0xc6e00bf3, 0xd5a79147, 0x06ca6351, 0x14292967,
   0x27b70a85, 0x2e1b2138, 0x4d2c6dfc, 0x53380d13, 0x650a7354, 0x766a0abb, 0x81c2c92e, 0x92722c85,
   0xa2bfe8a1, 0xa81a664b, 0xc24b8b70, 0xc76c51a3, 0xd192e819, 0xd6990624, 0xf40e3585, 0x106aa070,
   0x19a4c116, 0x1e376c08, 0x2748774c, 0x34b0bcb5, 0x391c0cb3, 0x4ed8aa4a, 0x5b9cca4f, 0x682e6ff3,
   0x748f82ee, 0x78a5636f, 0x84c87814, 0x8cc70208, 0x90befffa, 0xa4506ceb, 0xbef9a3f7, 0xc67178f2]

/-- The eight chaining words. -/
structure State where
  a : UInt32
  b : UInt32
  c : UInt32
  d : UInt32
  e : UInt32
  f : UInt32
  g : UInt32
  h : UInt32
deriving DecidableEq

/-- The words before the first block. -/
def start : State :=
  ⟨0x6a09e667, 0xbb67ae85, 0x3c6ef372, 0xa54ff53a,
   0x510e527f, 0x9b05688c, 0x1f83d9ab, 0x5be0cd19⟩

def rotate (word count : UInt32) : UInt32 := (word >>> count) ||| (word <<< (32 - count))

/-- Adds `count` words to a schedule, each from four words before it. -/
def extend : (count : Nat) → Array UInt32 → Array UInt32
  | 0, words => words
  | count + 1, words =>
    let back (count : Nat) := words.getD (words.size - count) 0
    let near := back 2
    let far := back 15
    let low := rotate far 7 ^^^ rotate far 18 ^^^ (far >>> 3)
    let high := rotate near 17 ^^^ rotate near 19 ^^^ (near >>> 10)
    extend count (words.push (back 16 + low + back 7 + high))

/-- One round, with the round's constant and scheduled word added already. -/
def round (state : State) (word : UInt32) : State :=
  let high := rotate state.e 6 ^^^ rotate state.e 11 ^^^ rotate state.e 25
  let choice := (state.e &&& state.f) ^^^ (~~~state.e &&& state.g)
  let first := state.h + high + choice + word
  let low := rotate state.a 2 ^^^ rotate state.a 13 ^^^ rotate state.a 22
  let majority := (state.a &&& state.b) ^^^ (state.a &&& state.c) ^^^ (state.b &&& state.c)
  ⟨first + (low + majority), state.a, state.b, state.c, state.d + first, state.e, state.f, state.g⟩

/-- The last `count` of the sixty-four rounds. -/
def rounds (words : Array UInt32) : (count : Nat) → State → State
  | 0, state => state
  | count + 1, state =>
    let index := 63 - count
    rounds words count (round state (constants.getD index 0 + words.getD index 0))

/-- Absorbs a block of sixteen words. -/
def compress (state : State) (block : Array UInt32) : State :=
  let mixed := rounds (extend 48 block) 64 state
  ⟨state.a + mixed.a, state.b + mixed.b, state.c + mixed.c, state.d + mixed.d,
   state.e + mixed.e, state.f + mixed.f, state.g + mixed.g, state.h + mixed.h⟩

/-- The big-endian words of a byte string; bytes that fill no word are left out. -/
def words : Bytes → List UInt32
  | a :: b :: c :: d :: rest =>
    ((a.toUInt32 <<< 24) ||| (b.toUInt32 <<< 16) ||| (c.toUInt32 <<< 8) ||| d.toUInt32) :: words rest
  | _ => []

/-- The big-endian bytes of a word. -/
def wordBytes (word : UInt32) : Bytes :=
  [(word >>> 24).toUInt8, (word >>> 16).toUInt8, (word >>> 8).toUInt8, word.toUInt8]

/-- Absorbs the whole blocks of a byte string. -/
def absorb (state : State) (bytes : Bytes) : State :=
  let words := (words bytes).toArray
  (List.range (words.size / 16)).foldl
    (fun state index => compress state (words.extract (16 * index) (16 * index + 16))) state

/-- What follows a message of `size` bytes: a one bit, zeros up to the end of a block less eight
bytes, and the size in bits. -/
def padding (size : Nat) : Bytes :=
  0x80 :: List.replicate ((119 - size % 64) % 64) 0 ++
    wordBytes (UInt32.ofNat (8 * size / 2 ^ 32)) ++ wordBytes (UInt32.ofNat (8 * size))

/-- The thirty-two bytes of the chaining words. -/
def State.toBytes (state : State) : Bytes :=
  [state.a, state.b, state.c, state.d, state.e, state.f, state.g, state.h].flatMap wordBytes

/-- The digest of a message of which `absorbed` bytes, whole blocks, are in the state already. -/
def finish (state : State) (absorbed : Nat) (message : Bytes) : FixedBytes 32 :=
  ⟨(absorb state (message ++ padding (absorbed + message.length))).toBytes, rfl⟩

/-- The SHA-256 digest of a message. -/
def hash (message : Bytes) : FixedBytes 32 := finish start 0 message

end WalletTools.Digest.Sha256
