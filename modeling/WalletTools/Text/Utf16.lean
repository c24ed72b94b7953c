import WalletTools.Text.Utf8

/-! UTF-16, in either order of the bytes. Units that write no character are replaced, and so is what is cut
off at the end. -/
namespace WalletTools.Text.Utf16

/-- Which byte of a unit comes first. -/
inductive Order
  | little
  | big
deriving DecidableEq, Repr

/-- The unit of two bytes. -/
def Order.unit : Order → UInt8 → UInt8 → Nat
  | .little, low, high => 256 * high.toNat + low.toNat
  | .big, high, low => 256 * high.toNat + low.toNat

/-- The units of bytes, and whether one byte is left. -/
def units (order : Order) : Bytes → List Nat × Bool
  | [] => ([], false)
  | [_] => ([], true)
  | first :: second :: rest =>
    let (later, odd) := units order rest
    (order.unit first second :: later, odd)

/-- Whether a unit is the first one of a pair. -/
def isLead (unit : Nat) : Bool := 0xd800 ≤ unit && unit < 0xdc00

/-- Whether a unit is the second one of a pair. -/
def isTrail (unit : Nat) : Bool := 0xdc00 ≤ unit && unit < 0xe000

/-- The character of a pair. -/
def paired (lead trail : Nat) : Char :=
  Char.ofNat (0x10000 + 0x400 * (lead - 0xd800) + (trail - 0xdc00))

/-- The characters of units, where `odd` tells of a byte behind them. A pair that is not ended, a byte
that is left, and the two together are one thing that is cut off. -/
def characters (odd : Bool) : List Nat → List Char
  | [] => if odd then [Utf8.replacement] else []
  | unit :: rest =>
    if isTrail unit then Utf8.replacement :: characters odd rest
    else if isLead unit then
      match rest with
      | [] => [Utf8.replacement]
      | trail :: later =>
        if isTrail trail then paired unit trail :: characters odd later
        else Utf8.replacement :: characters odd (trail :: later)
    else Char.ofNat unit :: characters odd rest

/-- The text of any bytes. -/
def decodeReplacing (order : Order) (bytes : Bytes) : String :=
  let (units, odd) := units order bytes
  String.ofList (characters odd units)

end WalletTools.Text.Utf16
