import WalletTools.Json.Fault

/-! Steps of reading JSON from the front of a text: blanks, marks, words, numerals and quoted text.
How strictly a numeral or a quoted text is read is a matter of rules. -/
namespace WalletTools.Json

/-- A step of reading. -/
abbrev Scanner := StateT (List Char) (Except Fault)

/-- What is asked of a value beyond the grammar. -/
structure Rules where
  /-- Whether escapes of surrogates have to come in pairs. -/
  paired : Bool
  /-- Whether a number may not be too large. -/
  bounded : Bool
  /-- The fault of a numeral that the text ends in. -/
  cut : Fault

/-- The rules for a value that is kept. -/
def Rules.kept : Rules := ⟨true, true, .unfinished⟩

/-- The rules for a value that is passed over. What is read under them is of no use: a surrogate that
stands alone and a number that is too large come out as zero. -/
def Rules.passed : Rules := ⟨false, false, .malformed⟩

/-- The characters between tokens. -/
def isBlank (char : Char) : Bool := char = ' ' ∨ char = '\n' ∨ char = '\t' ∨ char = '\r'

def skipBlank : Scanner Unit := modify (·.dropWhile isBlank)

/-- The next character, which stays. -/
def peek : Scanner (Option Char) := return (← get).head?

/-- The next character. -/
def next : Scanner Char := do
  match ← get with
  | [] => throw .unfinished
  | char :: rest => set rest; return char

/-- A mark, behind blanks. -/
def expect (mark : Char) : Scanner Unit := do
  skipBlank
  if (← next) ≠ mark then throw .malformed

/-- The rest of a word. -/
def expectWord : List Char → Scanner Unit
  | [] => return
  | char :: word => do
    if (← next) ≠ char then throw .malformed
    expectWord word

/-- Whether another item follows in a list that a mark closes. -/
def continues (close : Char) : Scanner Bool := do
  skipBlank
  let char ← next
  if char = close then return false
  if char = ',' then return true
  throw .malformed

/-! ## Numerals -/

/-- One digit or more. -/
def readDigits (rules : Rules) : Scanner (List Char) := do
  match ← get with
  | [] => throw rules.cut
  | char :: rest =>
    if char.isDigit then
      set (rest.dropWhile Char.isDigit)
      return char :: rest.takeWhile Char.isDigit
    else throw .malformed

/-- A fraction, if a point follows. -/
def readFraction (rules : Rules) : Scanner (Option (List Char)) := do
  match ← get with
  | '.' :: rest => set rest; some <$> readDigits rules
  | _ => return none

/-- An exponent, if its letter follows. -/
def readExponent (rules : Rules) : Scanner (Option (Bool × List Char)) := do
  match ← get with
  | letter :: rest =>
    if letter = 'e' ∨ letter = 'E' then
      match rest with
      | '-' :: rest => set rest; return some (true, ← readDigits rules)
      | '+' :: rest => set rest; return some (false, ← readDigits rules)
      | rest => set rest; return some (false, ← readDigits rules)
    else return none
  | [] => return none

/-- A numeral behind its sign. Its whole digits start with zero only if there is no other. -/
def readNumeral (rules : Rules) (negative : Bool) : Scanner Numeral := do
  let whole ← readDigits rules
  if whole.head? = some '0' ∧ whole ≠ ['0'] then throw .malformed
  let fraction? ← readFraction rules
  let exponent? ← readExponent rules
  return ⟨negative, whole, fraction?, exponent?⟩

/-- What a numeral stands for. -/
def Numeral.value (rules : Rules) (numeral : Numeral) : Scanner Number :=
  match numeral.number? with
  | some number => return number
  | none => if rules.bounded then throw .malformed else return .integer 0

/-- A number, of which the first character is read. -/
def readNumber (rules : Rules) (first : Char) : Scanner Number := do
  if first = '-' then (← readNumeral rules true).value rules
  else if first.isDigit then
    modify (first :: ·)
    (← readNumeral rules false).value rules
  else throw .malformed

/-! ## Quoted text -/

/-- The value of a hexadecimal digit. -/
def hexValue? (char : Char) : Option Nat :=
  if char.isDigit then some (char.toNat - '0'.toNat)
  else if 'a' ≤ char ∧ char ≤ 'f' then some (char.toNat - 'a'.toNat + 10)
  else if 'A' ≤ char ∧ char ≤ 'F' then some (char.toNat - 'A'.toNat + 10)
  else none

/-- The number that four hexadecimal digits at the start write. A text of fewer than four bytes ends
too early. -/
def codeUnit : List Char → Except Fault Nat
  | a :: b :: c :: d :: _ =>
    match hexValue? a, hexValue? b, hexValue? c, hexValue? d with
    | some a, some b, some c, some d => .ok (((a * 16 + b) * 16 + c) * 16 + d)
    | _, _, _, _ => .error .malformed
  | rest => .error (if rest.foldl (· + ·.utf8Size) 0 < 4 then .unfinished else .malformed)

/-- The first half of the escapes that write one character beyond `\uffff` together. -/
def isLead (unit : Nat) : Bool := 0xd800 ≤ unit ∧ unit < 0xdc00

/-- The second half of such escapes. -/
def isTrail (unit : Nat) : Bool := 0xdc00 ≤ unit ∧ unit < 0xe000

/-- The second half behind the first. -/
def trailUnit : List Char → Except Fault Nat
  | [] => .error .unfinished
  | '\\' :: rest =>
    match rest with
    | [] => .error .unfinished
    | 'u' :: rest => do
      let unit ← codeUnit rest
      if isTrail unit then return unit else throw .malformed
    | _ => .error .malformed
  | _ => .error .malformed

/-- The character of an escape by number, and how many characters write it behind the letter. -/
def codeEscape (rules : Rules) (rest : List Char) : Except Fault (Char × Nat) := do
  let unit ← codeUnit rest
  if !rules.paired then return (Char.ofNat unit, 4)
  if isTrail unit then throw .malformed
  if isLead unit then
    let trail ← trailUnit (rest.drop 4)
    return (Char.ofNat (0x10000 + (unit - 0xd800) * 0x400 + (trail - 0xdc00)), 10)
  return (Char.ofNat unit, 4)

/-- The character that a letter behind a backslash stands for. -/
def letterEscape? (letter : Char) : Option Char :=
  [('"', '"'), ('\\', '\\'), ('/', '/'), ('b', Char.ofNat 8), ('f', Char.ofNat 12), ('n', '\n'),
    ('r', '\r'), ('t', '\t')].lookup letter

/-- The character of an escape, and how many characters write it behind the backslash. -/
def escape (rules : Rules) : List Char → Except Fault (Char × Nat)
  | [] => .error .unfinished
  | letter :: rest =>
    match letterEscape? letter with
    | some char => .ok (char, 1)
    | none =>
      if letter = 'u' then (fun (char, count) => (char, count + 1)) <$> codeEscape rules rest
      else .error .malformed

/-- The characters of a quoted text behind its first mark, and what follows its last. -/
def quoted (rules : Rules) : List Char → Except Fault (List Char × List Char)
  | [] => .error .unfinished
  | char :: rest =>
    if char = '"' then .ok ([], rest)
    else if char = '\\' then do
      let (meant, count) ← escape rules rest
      let (chars, rest) ← quoted rules (rest.drop count)
      return (meant :: chars, rest)
    else if char.toNat < 0x20 then .error .malformed
    else do
      let (chars, rest) ← quoted rules rest
      return (char :: chars, rest)
  termination_by text => text.length
  decreasing_by
    · simp only [List.length_drop, List.length_cons]; omega
    · simp only [List.length_cons]; omega

/-- A quoted text behind its first mark. -/
def readQuoted (rules : Rules) : Scanner String := do
  let (chars, rest) ← quoted rules (← get)
  set rest
  return String.ofList chars

/-! ## Whole texts -/

/-- The value of a text that holds nothing but blanks behind it. -/
def Scanner.whole {α : Type} (scanner : Scanner α) (text : String) : Except Fault α := do
  let (value, rest) ← scanner.run text.toList
  if rest.dropWhile isBlank = [] then return value else throw .malformed

end WalletTools.Json
