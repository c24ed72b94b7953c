import WalletTools.Bytes

/-! SHA-512 and SHA-512/256. The two share everything but the words they start from; the second
keeps half of the result. -/
namespace WalletTools.Digest.Sha512

/-- The additive constant of each round. -/
def constants : Array UInt64 :=
  #[0x428a2f98d728ae22, 0x7137449123ef65cd, 0xb5c0fbcfec4d3b2f, 0xe9b5dba58189dbbc,
   0x3956c25bf348b538, 0x59f111f1b605d019, 0x923f82a4af194f9b, 0xab1c5ed5da6d8118,
   0xd807aa98a3030242, 0x12835b0145706fbe, 0x243185be4ee4b28c, 0x550c7dc3d5ffb4e2,
   0x72be5d74f27b896f, 0x80deb1fe3b1696b1, 0x9bdc06a725c71235, 0xc19bf174cf692694,
   0xe49b69c19ef14ad2, 0xefbe4786384f25e3, 0x0fc19dc68b8cd5b5, 0x240ca1cc77ac9c65,
   0x2de92c6f592b0275, 0x4a7484aa6ea6e483, 0x5cb0a9dcbd41fbd4, 0x76f988da831153b5,
   0x983e5152ee66dfab, 0xa831c66d2db43210, 0xb00327c898fb213f, 0xbf597fc7beef0ee4,
   0xc6e00bf33da88fc2, 0xd5a79147930aa725, 0x06ca6351e003826f, 0x142929670a0e6e70,
   0x27b70a8546d22ffc, 0x2e1b21385c26c926, 0x4d2c6dfc5ac42aed, 0x53380d139d95b3df,
   0x650a73548baf63de, 0x766a0abb3c77b2a8, 0x81c2c92e47edaee6, 0x92722c851482353b,
   0xa2bfe8a14cf10364, 0xa81a664bbc423001, 0xc24b8b70d0f89791, 0xc76c51a30654be30,
   0xd192e819d6ef5218, 0xd69906245565a910, 0xf40e35855771202a, 0x106aa07032bbd1b8,
   0x19a4c116b8d2d0c8, 0x1e376c085141ab53, 0x2748774cdf8eeb99, 0x34b0bcb5e19b48a8,
   0x391c0cb3c5c95a63, 0x4ed8aa4ae3418acb, 0x5b9cca4f7763e373, 0x682e6ff3d6b2b8a3,
   0x748f82ee5defb2fc, 0x78a5636f43172f60, 0x84c87814a1f0ab72, 0x8cc702081a6439ec,
   0x90befffa23631e28, 0xa4506cebde82bde9, 0xbef9a3f7b2c67915, 0xc67178f2e372532b,
   0xca273eceea26619c, 0xd186b8c721c0c207, 0xeada7dd6cde0eb1e, 0xf57d4f7fee6ed178,
   0x06f067aa72176fba, 0x0a637dc5a2c898a6, 0x113f9804bef90dae, 0x1b710b35131c471b,
   0x28db77f523047d84, 0x32caab7b40c72493, 0x3c9ebe0a15c9bebc, 0x431d67c49c100d4c,
   0x4cc5d4becb3e42b6, 0x597f299cfc657e2a, 0x5fcb6fab3ad6faec, 0x6c44198c4a475817]

/-- The eight chaining words. -/
structure State where
  a : UInt64
  b : UInt64
  c : UInt64
  d : UInt64
  e : UInt64
  f : UInt64
  g : UInt64
  h : UInt64
deriving DecidableEq

/-- The words before the first block of a SHA-512 message. -/
def start : State :=
  ⟨0x6a09e667f3bcc908, 0xbb67ae8584caa73b, 0x3c6ef372fe94f82b, 0xa54ff53a5f1d36f1,
   0x510e527fade682d1, 0x9b05688c2b3e6c1f, 0x1f83d9abfb41bd6b, 0x5be0cd19137e2179⟩

/-- The words before the first block of a SHA-512/256 message. -/
def startHalf : State :=
  ⟨0x22312194fc2bf72c, 0x9f555fa3c84c64c2, 0x2393b86b6f53b151, 0x963877195940eabd,
   0x96283ee2a88effe3, 0xbe5e1e2553863992, 0x2b0199fc2c85b8aa, 0x0eb72ddc81c52ca2⟩

def rotate (word count : UInt64) : UInt64 := (word >>> count) ||| (word <<< (64 - count))

/-- Adds `count` words to a schedule, each from four words before it. -/
def extend : (count : Nat) → Array UInt64 → Array UInt64
  | 0, words => words
  | count + 1, words =>
    let back (count : Nat) := words.getD (words.size - count) 0
    let near := back 2
    let far := back 15
    let low := rotate far 1 ^^^ rotate far 8 ^^^ (far >>> 7)
    let high := rotate near 19 ^^^ rotate near 61 ^^^ (near >>> 6)
    extend count (words.push (back 16 + low + back 7 + high))

/-- One round, with the round's constant and scheduled word added already. -/
def round (state : State) (word : UInt64) : State :=
  let high := rotate state.e 14 ^^^ rotate state.e 18 ^^^ rotate state.e 41
  let choice := (state.e &&& state.f) ^^^ (~~~state.e &&& state.g)
  let first := state.h + high + choice + word
  let low := rotate state.a 28 ^^^ rotate state.a 34 ^^^ rotate state.a 39
  let majority := (state.a &&& state.b) ^^^ (state.a &&& state.c) ^^^ (state.b &&& state.c)
  ⟨first + (low + majority), state.a, state.b, state.c, state.d + first, state.e, state.f, state.g⟩

/-- The last `count` of the eighty rounds. -/
def rounds (words : Array UInt64) : (count : Nat) → State → State
  | 0, state => state
  | count + 1, state =>
    let index := 79 - count
    rounds words count (round state (constants.getD index 0 + words.getD index 0))

/-- Absorbs a block of sixteen words. -/
def compress (state : State) (block : Array UInt64) : State :=
  let mixed := rounds (extend 64 block) 80 state
  ⟨state.a + mixed.a, state.b + mixed.b, state.c + mixed.c, state.d + mixed.d,
   state.e + mixed.e, state.f + mixed.f, state.g + mixed.g, state.h + mixed.h⟩

/-- The word that eight bytes write, most significant first. -/
def word (bytes : List UInt8) : UInt64 :=
  bytes.foldl (fun word byte => (word <<< 8) ||| byte.toUInt64) 0

/-- The big-endian words of a byte string; bytes that fill no word are left out. -/
def words : Bytes → List UInt64
  | a :: b :: c :: d :: e :: f :: g :: h :: rest => word [a, b, c, d, e, f, g, h] :: words rest
  | _ => []

/-- The big-endian bytes of a word. -/
def wordBytes (word : UInt64) : Bytes :=
  [(word >>> 56).toUInt8, (word >>> 48).toUInt8, (word >>> 40).toUInt8, (word >>> 32).toUInt8,
   (word >>> 24).toUInt8, (word >>> 16).toUInt8, (word >>> 8).toUInt8, word.toUInt8]

/-- Absorbs the whole blocks of a byte string. -/
def absorb (state : State) (bytes : Bytes) : State :=
  let words := (words bytes).toArray
  (List.range (words.size / 16)).foldl
    (fun state index => compress state (words.extract (16 * index) (16 * index + 16))) state

/-- What follows a message of `size` bytes: a one bit, zeros up to the end of a block less sixteen
bytes, and the size in bits. -/
def padding (size : Nat) : Bytes :=
  0x80 :: List.replicate ((239 - size % 128) % 128) 0 ++
    wordBytes (UInt64.ofNat (8 * size / 2 ^ 64)) ++ wordBytes (UInt64.ofNat (8 * size))

/-- The sixty-four bytes of the chaining words. -/
def State.toBytes (state : State) : Bytes :=
  [state.a, state.b, state.c, state.d, state.e, state.f, state.g, state.h].flatMap wordBytes

/-- The SHA-512 digest of a message. -/
def hash (message : Bytes) : FixedBytes 64 :=
  ⟨(absorb start (message ++ padding message.length)).toBytes, rfl⟩

/-- The SHA-512/256 digest of a message. -/
def hashHalf (message : Bytes) : FixedBytes 32 :=
  ⟨(absorb startHalf (message ++ padding message.length)).toBytes.take 32, rfl⟩

end WalletTools.Digest.Sha512
