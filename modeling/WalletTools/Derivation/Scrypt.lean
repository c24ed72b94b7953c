import WalletTools.Derivation.Pbkdf2

/-! Keys derived from a password at a cost in memory. The derivation mixes blocks of `2 r` cells of
sixty-four bytes; its table holds `n` such blocks, `n` a power of two. -/
namespace WalletTools.Derivation.Scrypt

/-- Sixteen words. -/
structure Cell where
  a : UInt32
  b : UInt32
  c : UInt32
  d : UInt32
  e : UInt32
  f : UInt32
  g : UInt32
  h : UInt32
  i : UInt32
  j : UInt32
  k : UInt32
  l : UInt32
  m : UInt32
  n : UInt32
  o : UInt32
  p : UInt32
deriving Inhabited

def rotate (word count : UInt32) : UInt32 := (word <<< count) ||| (word >>> (32 - count))

/-- Mixes the words of every column of a cell, seen as a square of four by four. -/
def columnRound : Cell → Cell := fun ⟨a, b, c, d, e, f, g, h, i, j, k, l, m, n, o, p⟩ =>
  let e := e ^^^ rotate (a + m) 7
  let i := i ^^^ rotate (e + a) 9
  let m := m ^^^ rotate (i + e) 13
  let a := a ^^^ rotate (m + i) 18
  let j := j ^^^ rotate (f + b) 7
  let n := n ^^^ rotate (j + f) 9
  let b := b ^^^ rotate (n + j) 13
  let f := f ^^^ rotate (b + n) 18
  let o := o ^^^ rotate (k + g) 7
  let c := c ^^^ rotate (o + k) 9
  let g := g ^^^ rotate (c + o) 13
  let k := k ^^^ rotate (g + c) 18
  let d := d ^^^ rotate (p + l) 7
  let h := h ^^^ rotate (d + p) 9
  let l := l ^^^ rotate (h + d) 13
  let p := p ^^^ rotate (l + h) 18
  ⟨a, b, c, d, e, f, g, h, i, j, k, l, m, n, o, p⟩

/-- Mixes the words of every row. -/
def rowRound : Cell → Cell := fun ⟨a, b, c, d, e, f, g, h, i, j, k, l, m, n, o, p⟩ =>
  let b := b ^^^ rotate (a + d) 7
  let c := c ^^^ rotate (b + a) 9
  let d := d ^^^ rotate (c + b) 13
  let a := a ^^^ rotate (d + c) 18
  let g := g ^^^ rotate (f + e) 7
  let h := h ^^^ rotate (g + f) 9
  let e := e ^^^ rotate (h + g) 13
  let f := f ^^^ rotate (e + h) 18
  let l := l ^^^ rotate (k + j) 7
  let i := i ^^^ rotate (l + k) 9
  let j := j ^^^ rotate (i + l) 13
  let k := k ^^^ rotate (j + i) 18
  let m := m ^^^ rotate (p + o) 7
  let n := n ^^^ rotate (m + p) 9
  let o := o ^^^ rotate (n + m) 13
  let p := p ^^^ rotate (o + n) 18
  ⟨a, b, c, d, e, f, g, h, i, j, k, l, m, n, o, p⟩

/-- Combines two cells word by word. -/
def Cell.zipWith (combine : UInt32 → UInt32 → UInt32) (left right : Cell) : Cell :=
  ⟨combine left.a right.a, combine left.b right.b, combine left.c right.c, combine left.d right.d,
   combine left.e right.e, combine left.f right.f, combine left.g right.g, combine left.h right.h,
   combine left.i right.i, combine left.j right.j, combine left.k right.k, combine left.l right.l,
   combine left.m right.m, combine left.n right.n, combine left.o right.o, combine left.p right.p⟩

/-- Four double rounds, added to the cell they started from. -/
def mixCell (cell : Cell) : Cell :=
  let double (cell : Cell) : Cell := rowRound (columnRound cell)
  Cell.zipWith (· + ·) (double (double (double (double cell)))) cell

/-- A block of `2 r` cells. -/
abbrev Block := Array Cell

/-- Mixes each cell with the mixed cell before it, the first with the last; cells in even places
come first in the result. -/
def mixBlock (block : Block) : Block :=
  let (evens, odds, _) := block.foldl
    (fun (evens, odds, last) cell =>
      let next := mixCell (Cell.zipWith (· ^^^ ·) last cell)
      if evens.size = odds.size then (evens.push next, odds, next)
      else (evens, odds.push next, next))
    ((#[] : Block), (#[] : Block), block.back?.getD default)
  evens ++ odds

/-- Fills a table with `count` blocks, each mixed from the one before, and gives the next block. -/
def fill : (count : Nat) → Array Block → Block → Array Block × Block
  | 0, table, block => (table, block)
  | count + 1, table, block => fill count (table.push block) (mixBlock block)

/-- Mixes `count` times, each time with the block of the table that the last cell names. -/
def stir (table : Array Block) : (count : Nat) → Block → Block
  | 0, block => block
  | count + 1, block =>
    let last := block.back?.getD default
    let index := (last.a.toNat + 2 ^ 32 * last.b.toNat) % table.size
    stir table count (mixBlock (Array.zipWith (Cell.zipWith (· ^^^ ·)) block (table.getD index #[])))

/-- The little-endian words of a byte string; bytes that fill no word are left out. -/
def words : Bytes → List UInt32
  | a :: b :: c :: d :: rest =>
    (a.toUInt32 ||| (b.toUInt32 <<< 8) ||| (c.toUInt32 <<< 16) ||| (d.toUInt32 <<< 24)) :: words rest
  | _ => []

/-- The bytes of a word, least significant first. -/
def wordBytes (word : UInt32) : Bytes :=
  [word.toUInt8, (word >>> 8).toUInt8, (word >>> 16).toUInt8, (word >>> 24).toUInt8]

/-- The cells of a list of words; words that fill no cell are left out. -/
def cells : List UInt32 → List Cell
  | a :: b :: c :: d :: e :: f :: g :: h :: i :: j :: k :: l :: m :: n :: o :: p :: rest =>
    ⟨a, b, c, d, e, f, g, h, i, j, k, l, m, n, o, p⟩ :: cells rest
  | _ => []

def Cell.words (cell : Cell) : List UInt32 :=
  [cell.a, cell.b, cell.c, cell.d, cell.e, cell.f, cell.g, cell.h,
   cell.i, cell.j, cell.k, cell.l, cell.m, cell.n, cell.o, cell.p]

/-- Mixes one block through a table of `size` blocks. -/
def mixThroughTable (size : Nat) (bytes : Bytes) : Bytes :=
  let (table, block) := fill size #[] (cells (words bytes)).toArray
  (stir table size block).toList.flatMap fun cell => cell.words.flatMap wordBytes

/-- The costs of a derivation: the table has `2 ^ logSize` blocks of `2 blockFactor` cells, and
`lanes` blocks are mixed. -/
structure Cost where
  logSize : Nat
  blockFactor : Nat
  lanes : Nat
deriving DecidableEq, Repr

/-- Costs that a derivation can be run with: neither factor is zero, sizes in bytes fit sixty-four
bits, the table is not longer than a cell can address, and the lanes' blocks can be derived. -/
def Cost.valid (cost : Cost) : Bool :=
  0 < cost.blockFactor && 0 < cost.lanes &&
  128 * cost.blockFactor * 2 ^ cost.logSize < 2 ^ 64 &&
  128 * cost.blockFactor * cost.lanes < 2 ^ 64 &&
  cost.logSize < 16 * cost.blockFactor &&
  cost.blockFactor * cost.lanes < 2 ^ 30

/-- Why no key is derived. -/
inductive Fault
  | cost
  | size
deriving DecidableEq, Repr

def Fault.message : Fault → String
  | .cost => "scrypt InvalidParams"
  | .size => "scrypt InvalidOutputLen"

/-- A key of `size` bytes, which has to be one at least. -/
def derive (password salt : Bytes) (cost : Cost) (size : Nat) : Except Fault Bytes := do
  if !cost.valid then throw .cost
  if size = 0 then throw .size
  let width := 128 * cost.blockFactor
  let blocks := Pbkdf2.derive password salt 1 (width * cost.lanes)
  let mixed := (List.range cost.lanes).flatMap fun lane =>
    mixThroughTable (2 ^ cost.logSize) ((blocks.drop (width * lane)).take width)
  return Pbkdf2.derive password mixed 1 size

end WalletTools.Derivation.Scrypt
