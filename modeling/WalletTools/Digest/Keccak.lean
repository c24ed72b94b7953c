import WalletTools.Bytes

/-! Keccak-256: a sponge over twenty-five lanes that takes a message in blocks of seventeen. The
message is closed by the byte `01`, not by the byte of the later standard. -/
namespace WalletTools.Digest.Keccak

/-- Twenty-five lanes, five rows of five. -/
abbrev State := Vector UInt64 25

/-- The lane in column `x` of row `y`, both taken modulo five. -/
def lane (state : State) (x y : Nat) : UInt64 :=
  have : x % 5 < 5 := Nat.mod_lt _ (by decide)
  have : y % 5 < 5 := Nat.mod_lt _ (by decide)
  state[x % 5 + 5 * (y % 5)]

/-- How far each lane is turned. -/
def offsets : Vector UInt64 25 :=
  #v[0, 1, 62, 28, 27,
    36, 44, 6, 55, 20,
    3, 10, 43, 25, 39,
    41, 45, 15, 21, 8,
    18, 2, 61, 56, 14]

/-- What each round adds to the first lane. -/
def constants : List UInt64 :=
  [0x0000000000000001, 0x0000000000008082, 0x800000000000808a, 0x8000000080008000,
    0x000000000000808b, 0x0000000080000001, 0x8000000080008081, 0x8000000000008009,
    0x000000000000008a, 0x0000000000000088, 0x0000000080008009, 0x000000008000000a,
    0x000000008000808b, 0x800000000000008b, 0x8000000000008089, 0x8000000000008003,
    0x8000000000008002, 0x8000000000000080, 0x000000000000800a, 0x800000008000000a,
    0x8000000080008081, 0x8000000000008080, 0x0000000080000001, 0x8000000080008008]

def rotate (word count : UInt64) : UInt64 :=
  if count = 0 then word else (word <<< count) ||| (word >>> (64 - count))

/-- Adds to every lane the parities of the columns beside it. -/
def addParities (state : State) : State :=
  let parity : Vector UInt64 5 := Vector.ofFn fun x =>
    lane state x 0 ^^^ lane state x 1 ^^^ lane state x 2 ^^^ lane state x 3 ^^^ lane state x 4
  let column (x : Nat) : UInt64 := parity.get ⟨x % 5, Nat.mod_lt _ (by decide)⟩
  let added : Vector UInt64 5 := Vector.ofFn fun x => column (x + 4) ^^^ rotate (column (x + 1)) 1
  Vector.ofFn fun index => state[index] ^^^ added.get ⟨index.val % 5, Nat.mod_lt _ (by decide)⟩

/-- Turns every lane and moves it to its new place. -/
def move (state : State) : State :=
  Vector.ofFn fun index =>
    let x := index.val % 5
    let y := index.val / 5
    rotate (lane state (x + 3 * y) x) (lane offsets (x + 3 * y) x)

/-- Mixes each lane with the two after it in its row. -/
def mix (state : State) : State :=
  Vector.ofFn fun index =>
    let x := index.val % 5
    let y := index.val / 5
    state[index] ^^^ (~~~(lane state (x + 1) y) &&& lane state (x + 2) y)

def round (state : State) (constant : UInt64) : State :=
  let mixed := mix (move (addParities state))
  mixed.set 0 (mixed[0] ^^^ constant)

/-- The permutation between two blocks. -/
def permute (state : State) : State := constants.foldl round state

/-- The word that eight bytes write, least significant first. -/
def word (bytes : Bytes) : UInt64 :=
  bytes.foldr (fun byte word => (word <<< 8) ||| byte.toUInt64) 0

/-- The bytes of a word, least significant first. -/
def wordBytes (word : UInt64) : Bytes :=
  [word.toUInt8, (word >>> 8).toUInt8, (word >>> 16).toUInt8, (word >>> 24).toUInt8,
   (word >>> 32).toUInt8, (word >>> 40).toUInt8, (word >>> 48).toUInt8, (word >>> 56).toUInt8]

/-- The bytes of a block. -/
def blockSize : Nat := 136

/-- Adds a block to the first seventeen lanes and permutes. -/
def absorbBlock (state : State) (block : Bytes) : State :=
  permute (Vector.ofFn fun index => state[index] ^^^ word ((block.drop (8 * index.val)).take 8))

/-- What closes a message of `size` bytes: the byte `01`, zeros, and a last bit. -/
def padding (size : Nat) : Bytes :=
  match blockSize - size % blockSize - 1 with
  | 0 => [0x81]
  | zeros + 1 => 0x01 :: List.replicate zeros 0 ++ [0x80]

/-- The Keccak-256 digest of a message. -/
def hash (message : Bytes) : FixedBytes 32 :=
  let padded := message ++ padding message.length
  let state := (List.range (padded.length / blockSize)).foldl
    (fun state index => absorbBlock state ((padded.drop (blockSize * index)).take blockSize))
    (Vector.replicate 25 0)
  ⟨wordBytes state[0] ++ wordBytes state[1] ++ wordBytes state[2] ++ wordBytes state[3], rfl⟩

end WalletTools.Digest.Keccak
