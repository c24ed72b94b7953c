import WalletTools.CommandLine.Argument

/-! Command lines of options with values and of values by position. Arguments are read from left to
right; then what has to be there is looked for, and then every value. -/
namespace WalletTools.CommandLine

/-- An option, which takes a value. -/
structure Setting where
  letter : Char
  word : String
  required : Bool
  /-- Whether the value is a count. -/
  number : Bool
  default? : Option String
deriving DecidableEq, Repr

/-- A value by position, which has to be there. -/
structure Place where
  word : String
  number : Bool
deriving DecidableEq, Repr

/-- What a command line may hold, help and version apart. -/
structure Grammar where
  settings : List Setting
  places : List Place
deriving DecidableEq, Repr

/-- Why a command line is not run. -/
inductive Fault
  | missing
  | emptyValue
  | invalidValue
  | unknown
  | repeated
  | help
  | version
deriving DecidableEq, Repr

/-- What a command line gives: which options it names, the values of options, the values by position,
and the option that waits for a value at its end. -/
structure Given where
  named : List String
  values : List (String × String)
  places : List String
  waiting? : Option Setting
deriving DecidableEq, Repr

namespace Given

/-- Nothing more is given. -/
def nothing (waiting? : Option Setting) : Given := ⟨[], [], [], waiting?⟩

def name (word : String) (given : Given) : Given := { given with named := word :: given.named }

def value (word text : String) (given : Given) : Given :=
  { given with values := (word, text) :: given.values }

def place (text : String) (given : Given) : Given := { given with places := text :: given.places }

/-- The values of an option. -/
def valuesOf (given : Given) (word : String) : List String :=
  (given.values.filter (·.1 = word)).map (·.2)

/-- How often an option is named. -/
def uses (given : Given) (word : String) : Nat := given.named.count word

end Given

namespace Grammar

/-- The option of a word. -/
def byWord (grammar : Grammar) (word : String) : Except Fault Setting :=
  match grammar.settings.find? (·.word = word) with
  | some setting => .ok setting
  | none => .error (if word = "help" then .help else if word = "version" then .version else .unknown)

/-- The option of a letter. -/
def byLetter (grammar : Grammar) (letter : Char) : Except Fault Setting :=
  match grammar.settings.find? (·.letter = letter) with
  | some setting => .ok setting
  | none => .error (if letter = 'h' then .help else if letter = 'V' then .version else .unknown)

/-- Reads values by position, of which `taken` are read. -/
def readPlaces (grammar : Grammar) (waiting? : Option Setting) :
    (taken : Nat) → List String → Except Fault Given
  | _, [] => return .nothing waiting?
  | taken, text :: rest => do
    if grammar.places.length ≤ taken then throw .unknown
    return (← grammar.readPlaces waiting? (taken + 1) rest).place text

/-- Reads arguments while an option may wait for a value and `taken` values by position are read. -/
def read (grammar : Grammar) : (waiting? : Option Setting) → (taken : Nat) → List String →
    Except Fault Given
  | waiting?, _, [] => return .nothing waiting?
  | waiting?, taken, argument :: rest => do
    match Argument.ofText argument with
    | .separator => grammar.readPlaces waiting? taken rest
    | .word word value? => do
      let setting ← grammar.byWord word
      match value? with
      | some text => return (← grammar.read none taken rest).value setting.word text |>.name setting.word
      | none => return (← grammar.read (some setting) taken rest).name setting.word
    | .letter letter value? => do
      let setting ← grammar.byLetter letter
      match value? with
      | some text => return (← grammar.read none taken rest).value setting.word text |>.name setting.word
      | none => return (← grammar.read (some setting) taken rest).name setting.word
    | .plain text =>
      match waiting? with
      | some setting => return (← grammar.read none taken rest).value setting.word text
      | none =>
        if grammar.places.length ≤ taken then throw .unknown
        return (← grammar.read none (taken + 1) rest).place text

/-- Puts defaults where an option has no value. -/
def complete (grammar : Grammar) (given : Given) : Given :=
  grammar.settings.foldl
    (fun given setting =>
      match setting.default?, given.valuesOf setting.word with
      | some text, [] => given.value setting.word text
      | _, _ => given)
    given

/-- Whether everything is named that has to be. -/
def isCovered (grammar : Grammar) (given : Given) : Bool :=
  grammar.settings.all (fun setting => !setting.required || 0 < given.uses setting.word) &&
    grammar.places.length ≤ given.places.length

/-- Checks that the values of an option are there, are counts where counts are called for, and that
it is named once only. -/
def checkSetting (given : Given) (setting : Setting) : Except Fault Unit := do
  let values := given.valuesOf setting.word
  if 0 < given.uses setting.word ∧ values = [] then throw .emptyValue
  if setting.number ∧ values.any fun text => (count? text).isNone then throw .invalidValue
  if 1 < given.uses setting.word then throw .repeated

/-- Checks the values by position. -/
def checkPlaces (grammar : Grammar) (given : Given) : Except Fault Unit :=
  (grammar.places.zip given.places).forM fun (place, text) =>
    if place.number ∧ (count? text).isNone then .error .invalidValue else .ok ()

/-- What a command line gives, if it follows the grammar. -/
def parse (grammar : Grammar) (arguments : List String) : Except Fault Given := do
  let given := grammar.complete (← grammar.read none 0 arguments)
  if !grammar.isCovered given then throw .missing
  match given.waiting? with
  | some setting => if given.valuesOf setting.word = [] then throw .emptyValue
  | none => pure ()
  grammar.settings.forM (checkSetting given)
  grammar.checkPlaces given
  return given

end Grammar

end WalletTools.CommandLine
