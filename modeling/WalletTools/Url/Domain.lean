import WalletTools.Text.Direction
import WalletTools.Text.Joining
import WalletTools.Url.DomainForms
import WalletTools.Url.Punycode

/-! Domain names. Characters that only differ in form are brought to one form, encoded labels are
decoded, and then the labels' characters, joiners and directions are checked. That an encoded label is
composed is not checked. -/
namespace WalletTools.Url.Domain

open Text

/-- The characters that a character stands for; none if no name holds it. -/
def form? (char : Char) : Option (List Char) :=
  let code := char.toNat
  if code < 128 then some [char.toLower]
  else if droppedPoints.contains char then some []
  else if refusedPoints.contains char then none
  else
    match shiftedPoints.find? fun (first, last, _) => first ≤ code && code ≤ last with
    | some (_, _, distance) => some [Char.ofNat (Int.toNat (code + distance))]
    | none =>
      match spelledPoints.find? fun (point, _) => point == code with
      | some (_, codes) => some (codes.map Char.ofNat)
      | none => some [char]

/-- Whether a character may stand in an encoded label, where nothing is brought to one form. -/
def isPlain (char : Char) : Bool :=
  form? char = some [char] && !likenedPoints.contains char

/-- The ASCII characters that no name holds. -/
def isForbidden (char : Char) : Bool :=
  char.toNat ≤ 0x20 || char.toNat = 0x7f || "%#/:<>?@[\\]^|".toList.contains char

/-- Whether a label is written in ASCII for another. -/
def isEncoded (label : List Char) : Bool := "xn--".toList.isPrefixOf label

/-- The characters of a label, which is decoded if it is encoded. -/
def decodeLabel (label : List Char) : Option (List Char) := do
  if !isEncoded label then return label
  if label.any fun char => 128 ≤ char.toNat then none
  let decoded ← Punycode.decode (label.drop 4)
  if decoded.all (·.toNat < 128) || !decoded.all isPlain then none
  return decoded

/-! ## Joiners -/

/-- Joins letters that would not join. -/
def joiner : Char := Char.ofNat 0x200d

/-- Keeps letters apart that would join. -/
def nonJoiner : Char := Char.ofNat 0x200c

/-- The first character that is not a mark above another. -/
def nextLetter? (chars : List Char) : Option Char :=
  (chars.dropWhile nonspacingMarks.contains).head?

/-- Whether every joiner of a label stands where it changes the shape of letters, those before it being
given in reverse. -/
def joinersFit (before : List Char) : List Char → Bool
  | [] => true
  | char :: rest =>
    let afterKiller := before.head?.any vowelKillers.contains
    let fits :=
      if char = joiner then afterKiller
      else if char = nonJoiner then
        afterKiller ||
          ((nextLetter? before).any joinsNext.contains && (nextLetter? rest).any joinsPrevious.contains)
      else true
    fits && joinersFit (char :: before) rest

/-! ## Directions -/

/-- The last direction that is not that of a mark. -/
def lastDirection? (directions : List Direction) : Option Direction :=
  (directions.reverse.dropWhile (· = .mark)).head?

/-- Whether a label can be read in a name that is written in both directions. -/
def directionsFit (label : List Char) : Bool :=
  let directions := label.map direction
  match directions.head? with
  | none => true
  | some .fromLeft =>
    directions.all (fun direction => direction ≠ .fromRight ∧ direction ≠ .arabicNumber) &&
      (lastDirection? directions).any fun direction => direction = .fromLeft ∨ direction = .number
  | some .fromRight =>
    directions.all (· ≠ .fromLeft) &&
      !(directions.contains .number && directions.contains .arabicNumber) &&
      (lastDirection? directions).any fun direction =>
        direction = .fromRight ∨ direction = .number ∨ direction = .arabicNumber
  | some _ => false

/-- Whether a name has characters that are written from the right. -/
def isMixed (labels : List (List Char)) : Bool :=
  labels.any fun label => label.any fun char =>
    direction char = .fromRight ∨ direction char = .arabicNumber

/-! ## Names -/

/-- The parts of a text between dots. -/
def labels : List Char → List (List Char)
  | [] => [[]]
  | char :: rest =>
    match labels rest with
    | [] => [[char]]
    | label :: more => if char = '.' then [] :: label :: more else (char :: label) :: more

/-- Whether a label is made of characters that a name holds, and begins with none that needs another
before it. -/
def labelFits (label : List Char) : Bool :=
  !label.any isForbidden && !label.head?.any isMark && joinersFit [] label

/-- The labels of the name that a text writes, if it writes one. -/
def parse? (text : List Char) : Option (List (List Char)) := do
  let forms ← text.mapM form?
  let labels ← (labels forms.flatten).mapM decodeLabel
  if !labels.all labelFits then none
  if isMixed labels && !labels.all directionsFit then none
  return labels

end WalletTools.Url.Domain
