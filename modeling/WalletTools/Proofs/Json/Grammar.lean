import WalletTools.Json.Tree

/-! The grammar of JSON: which characters write a value, under the rules for values that are kept and
under those for values that are passed over, and how deep arrays and objects lie in each other. The
members of an object are told by their names and either by their values or by the texts of these. -/
namespace WalletTools.Json

/-- Blanks and nothing else. -/
def Blanks (piece : List Char) : Prop := ∀ char ∈ piece, isBlank char = true

/-- The text of a value with blanks before and behind it. -/
inductive Padded (writes : α → List Char → Prop) (value : α) : List Char → Prop
  | mk (front : Blanks before) (written : writes value piece) (back : Blanks behind) :
      Padded writes value (before ++ (piece ++ behind))

/-! ## Numbers -/

/-- One digit or more. -/
structure Digits (piece : List Char) : Prop where
  nonempty : piece ≠ []
  digits : ∀ char ∈ piece, char.isDigit = true

inductive FractionText : Option (List Char) → List Char → Prop
  | absent : FractionText none []
  | given (digits : Digits fraction) : FractionText (some fraction) ('.' :: fraction)

inductive ExponentText : Option (Bool × List Char) → List Char → Prop
  | absent : ExponentText none []
  | bare (letter : mark = 'e' ∨ mark = 'E') (digits : Digits exponent) :
      ExponentText (some (false, exponent)) (mark :: exponent)
  | plus (letter : mark = 'e' ∨ mark = 'E') (digits : Digits exponent) :
      ExponentText (some (false, exponent)) (mark :: '+' :: exponent)
  | minus (letter : mark = 'e' ∨ mark = 'E') (digits : Digits exponent) :
      ExponentText (some (true, exponent)) (mark :: '-' :: exponent)

/-- The text of a numeral behind its sign. Its whole digits start with zero only if there is no
other. -/
inductive UnsignedText (negative : Bool) : Numeral → List Char → Prop
  | mk (digits : Digits whole) (lead : whole.head? = some '0' → whole = ['0'])
      (fraction : FractionText fraction? middle) (exponent : ExponentText exponent? last) :
      UnsignedText negative ⟨negative, whole, fraction?, exponent?⟩ (whole ++ (middle ++ last))

inductive NumeralText : Numeral → List Char → Prop
  | positive (written : UnsignedText false numeral piece) : NumeralText numeral piece
  | negative (written : UnsignedText true numeral piece) : NumeralText numeral ('-' :: piece)

/-- What a numeral stands for. One that is too large may only be passed over, and its value is of no
use. -/
def Numeral.Means (rules : Rules) (numeral : Numeral) (value : Number) : Prop :=
  numeral.number? = some value ∨
    numeral.number? = none ∧ rules.bounded = false ∧ value = .integer 0

/-! ## Quoted text -/

/-- Four hexadecimal digits. -/
inductive CodeUnit : Nat → List Char → Prop
  | mk (first : hexValue? a = some w) (second : hexValue? b = some x) (third : hexValue? c = some y)
      (fourth : hexValue? d = some z) : CodeUnit (((w * 16 + x) * 16 + y) * 16 + z) [a, b, c, d]

/-- What stands behind a backslash for a character: a letter, the number of the character, or the two
numbers of a character beyond `\uffff`. Where such pairs are asked for, no half stands alone. -/
inductive EscapeText (rules : Rules) : Char → List Char → Prop
  | letter (known : letterEscape? mark = some char) : EscapeText rules char [mark]
  | unit (written : CodeUnit code digits)
      (whole : rules.paired = true → isTrail code = false ∧ isLead code = false) :
      EscapeText rules (Char.ofNat code) ('u' :: digits)
  | pair (paired : rules.paired = true) (first : CodeUnit lead leading) (isLead : isLead lead = true)
      (second : CodeUnit trail trailing) (isTrail : isTrail trail = true) :
      EscapeText rules (Char.ofNat (0x10000 + (lead - 0xd800) * 0x400 + (trail - 0xdc00)))
        ('u' :: (leading ++ '\\' :: 'u' :: trailing))

/-- What stands between the marks of a quoted text: its characters, of which marks, backslashes and
controls have to be escaped. -/
inductive QuotedText (rules : Rules) : List Char → List Char → Prop
  | nil : QuotedText rules [] []
  | plain (mark : char ≠ '"') (slash : char ≠ '\\') (visible : ¬ char.toNat < 0x20)
      (later : QuotedText rules letters piece) : QuotedText rules (char :: letters) (char :: piece)
  | escaped (escape : EscapeText rules char front) (later : QuotedText rules letters back) :
      QuotedText rules (char :: letters) ('\\' :: (front ++ back))

/-! ## Lists -/

/-- Items with commas between them and a mark behind the last. -/
inductive ListText (writes : α → List Char → Prop) (close : Char) : List α → List Char → Prop
  | last (item : writes value piece) : ListText writes close [value] (piece ++ [close])
  | more (item : writes value piece) (later : ListText writes close values rest) :
      ListText writes close (value :: values) (piece ++ ',' :: rest)

/-- Items between marks, or nothing but blanks. -/
inductive EnclosedText (writes : α → List Char → Prop) (first close : Char) : List α → List Char → Prop
  | empty (blank : Blanks between) : EnclosedText writes first close [] (first :: (between ++ [close]))
  | filled (items : ListText writes close values body) :
      EnclosedText writes first close values (first :: body)

/-- A member of an object: a quoted name, a colon and the value. -/
inductive MemberText (rules : Rules) (writes : α → List Char → Prop) : String × α → List Char → Prop
  | mk (front : Blanks before) (quoted : QuotedText rules name.toList content) (between : Blanks gap)
      (written : Padded writes value piece) :
      MemberText rules writes (name, value) (before ++ '"' :: (content ++ '"' :: (gap ++ ':' :: piece)))

/-! ## Values -/

/-- A value without parts. -/
inductive ScalarText (rules : Rules) : Json → List Char → Prop
  | null : ScalarText rules .null ['n', 'u', 'l', 'l']
  | true : ScalarText rules (.boolean true) ['t', 'r', 'u', 'e']
  | false : ScalarText rules (.boolean false) ['f', 'a', 'l', 's', 'e']
  | number (written : NumeralText numeral piece) (means : numeral.Means rules value) :
      ScalarText rules (.number value) piece
  | text (quoted : QuotedText rules letters content) :
      ScalarText rules (.text (String.ofList letters)) ('"' :: (content ++ ['"']))

/-- An array or an object, whose parts are written in a way of their own. -/
inductive CompoundText (rules : Rules) (writes : Json → List Char → Prop) : Json → List Char → Prop
  | array (written : EnclosedText (Padded writes) '[' ']' elements piece) :
      CompoundText rules writes (.array elements) piece
  | object (written : EnclosedText (MemberText rules writes) '{' '}' members piece) :
      CompoundText rules writes (.object members) piece

/-- A value, in which arrays and objects lie in each other at most so many levels deep. -/
def ValueText (rules : Rules) : (levels : Nat) → Json → List Char → Prop
  | 0 => ScalarText rules
  | levels + 1 => fun json piece =>
    ScalarText rules json piece ∨ CompoundText rules (ValueText rules levels) json piece

/-- The text of some value, however deep. A number may be too large and half a pair of escapes may stand
alone. -/
def WellFormed (piece : List Char) : Prop := ∃ levels json, ValueText .passed levels json piece

/-- The texts that hold one value and blanks. -/
def Document (text : String) : Prop := Padded (fun _ : Unit => WellFormed) () text.toList

/-- The text of a value that is told by this text. -/
inductive Verbatim : List Char → List Char → Prop
  | mk (written : WellFormed piece) : Verbatim piece piece

/-- An object, whose members are told by their names and the texts of their values. -/
def ObjectText (members : List (String × List Char)) (text : String) : Prop :=
  Padded (EnclosedText (MemberText .kept Verbatim) '{' '}') members text.toList

/-- The texts of the values of all members of a name. -/
def piecesOf (name : String) (members : List (String × List Char)) : List (List Char) :=
  (members.filter (·.1 = name)).map (·.2)

end WalletTools.Json
