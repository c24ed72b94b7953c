import WalletTools.Bytes
import WalletTools.Encoding.Hex
import WalletTools.Text.Utf8
import WalletTools.Url.Domain
import WalletTools.Url.Fault

/-! Hosts of URLs: domain names, addresses of the fourth and the sixth version, and the hosts of other
schemes, which are just texts. -/
namespace WalletTools.Url

inductive Host
  | domain (labels : List (List Char))
  | ipv4 (address : Nat)
  | ipv6 (pieces : List Nat)
  | plain (text : List Char)
deriving DecidableEq, Repr

/-! ## Addresses of the fourth version -/

/-- A number in decimal, in octal behind a zero, or in hexadecimal behind a mark. -/
def ipv4Number? (part : List Char) : Option Nat :=
  let read (base : Nat) (digits : List Char) : Option Nat :=
    digits.foldlM
      (fun number digit => do
        let value ← Hex.digitValue? digit
        if value < base then some (number * base + value) else none)
      0
  match part with
  | [] => none
  | '0' :: 'x' :: digits => read 16 digits
  | '0' :: 'X' :: digits => read 16 digits
  | '0' :: digit :: digits => read 8 (digit :: digits)
  | digits => read 10 digits

/-- The parts of a name without an empty one behind a last dot. -/
def withoutLastDot (labels : List (List Char)) : List (List Char) :=
  if labels.getLast? = some [] then labels.dropLast else labels

/-- Whether the last part of a name is a number, which makes the name an address. -/
def endsInNumber (labels : List (List Char)) : Bool :=
  match (withoutLastDot labels).getLast? with
  | none => false
  | some last => (!last.isEmpty && last.all Char.isDigit) || (ipv4Number? last).isSome

/-- The address of four numbers or fewer, the last of which fills what the others leave. -/
def ipv4? (labels : List (List Char)) : Option Nat := do
  let parts := withoutLastDot labels
  if 4 < parts.length then none
  let numbers ← parts.mapM ipv4Number?
  let last ← numbers.getLast?
  let front := numbers.dropLast
  if front.any (255 < ·) || 256 ^ (4 - front.length) ≤ last then none
  return front.zipIdx.foldl (fun total (number, index) => total + number * 256 ^ (3 - index)) last

/-! ## Addresses of the sixth version -/

/-- Four decimal numbers below 256, without zeros in front, of which `count` are still to come. -/
def dottedNumbers? : (count : Nat) → List Char → Option (List Nat)
  | 0, _ => none
  | count + 1, text => do
    let digits := text.takeWhile Char.isDigit
    let rest := text.dropWhile Char.isDigit
    if digits.isEmpty || (digits.head? = some '0' && digits ≠ ['0']) then none
    let number := digits.foldl (fun number digit => 10 * number + (digit.toNat - '0'.toNat)) 0
    if 255 < number then none
    match count, rest with
    | 0, [] => return [number]
    | count + 1, '.' :: rest => return number :: (← dottedNumbers? (count + 1) rest)
    | _, _ => none

/-- The value of four hexadecimal digits at most at the start, and how many there are. -/
def hexPiece (text : List Char) : Nat × Nat :=
  let digits := (text.take 4).takeWhile fun char => (Hex.digitValue? char).isSome
  (digits.foldl (fun number digit => number * 16 + (Hex.digitValue? digit).getD 0) 0, digits.length)

/-- The eight pieces, where zeros fill the gap behind the first `gap?` of them. -/
def fillGap? (pieces : List Nat) (gap? : Option Nat) : Option (List Nat) :=
  match gap? with
  | some gap => some (pieces.take gap ++ List.replicate (8 - pieces.length) 0 ++ pieces.drop gap)
  | none => if pieces.length = 8 then some pieces else none

/-- Reads pieces behind others, in so many steps. A gap counts as a piece of zero. -/
def ipv6From? : (fuel : Nat) → (pieces : List Nat) → (gap? : Option Nat) → List Char →
    Option (List Nat)
  | 0, _, _, _ => none
  | _ + 1, pieces, gap?, [] => fillGap? pieces gap?
  | fuel + 1, pieces, gap?, char :: rest => do
    if pieces.length = 8 then none
    if char = ':' then
      if gap?.isSome then none
      ipv6From? fuel (pieces ++ [0]) (some (pieces.length + 1)) rest
    else
      let (piece, count) := hexPiece (char :: rest)
      match (char :: rest).drop count with
      | [] => ipv6From? fuel (pieces ++ [piece]) gap? []
      | ':' :: more =>
        if more.isEmpty then none
        ipv6From? fuel (pieces ++ [piece]) gap? more
      | '.' :: _ =>
        if count = 0 || 6 < pieces.length then none
        let numbers ← dottedNumbers? 4 (char :: rest)
        let pair (index : Nat) := numbers.getD index 0 * 256 + numbers.getD (index + 1) 0
        fillGap? (pieces ++ [pair 0, pair 2]) gap?
      | _ => none

/-- The pieces of an address between brackets. -/
def ipv6? (text : List Char) : Option (List Nat) :=
  match text with
  | ':' :: ':' :: rest => ipv6From? (text.length + 1) [0] (some 1) rest
  | ':' :: _ => none
  | [] => none
  | [_] => none
  | _ => ipv6From? (text.length + 1) [] none text

/-- The host between brackets, if the text begins with one. -/
def bracketed? (text : List Char) : Option (Except Fault Host) :=
  match text with
  | '[' :: rest =>
    some (if rest.getLast? = some ']' then
      match ipv6? rest.dropLast with
      | some pieces => .ok (.ipv6 pieces)
      | none => .error .ipv6
    else .error .ipv6)
  | _ => none

/-! ## Hosts -/

/-- Bytes with those that are written as a percent sign and two hexadecimal digits. -/
def decodePercent : Bytes → Bytes
  | 0x25 :: high :: low :: rest =>
    match Hex.decodeChars? [Char.ofNat high.toNat, Char.ofNat low.toNat] with
    | some bytes => bytes ++ decodePercent rest
    | none => 0x25 :: decodePercent (high :: low :: rest)
  | byte :: rest => byte :: decodePercent rest
  | [] => []
  termination_by bytes => bytes.length

/-- The host of a network scheme. -/
def Host.parse (text : List Char) : Except Fault Host :=
  match bracketed? text with
  | some host => host
  | none =>
    let decoded := decodePercent (Text.Utf8.encode (String.ofList text))
    match Domain.parse? (Text.Utf8.decodeReplacing decoded).toList with
    | none => .error .domain
    | some labels =>
      if labels = [[]] then .error .emptyHost
      else if endsInNumber labels then
        match ipv4? labels with
        | some address => .ok (.ipv4 address)
        | none => .error .ipv4
      else .ok (.domain labels)

/-- The characters that no host of any scheme holds. -/
def isHostForbidden (char : Char) : Bool :=
  char.toNat = 0 || "\t\n\r #/:<>?@[\\]^|".toList.contains char

/-- The host of another scheme. -/
def Host.parsePlain (text : List Char) : Except Fault Host :=
  match bracketed? text with
  | some host => host
  | none => if text.any isHostForbidden then .error .hostCharacter else .ok (.plain text)

end WalletTools.Url
