import WalletTools.Node.Settings
import WalletTools.Proofs.Files
import WalletTools.Proofs.Json.Written

/-! Settings files: an object provides some settings and leaves the others as they are. One that repeats a
setting or gives it a value of another kind is refused, and so is a file that is no JSON or no text. -/
namespace WalletTools.Node.Settings

open Json

/-- What a settings file gives. -/
structure Provided where
  address? : Option String
  token? : Option String
  waitRounds? : Option UInt64
  validityRounds? : Option UInt64
deriving DecidableEq, Repr

/-- The values of the members of one name provide a setting: the only one is its text, or there is
none. -/
inductive Provides (kind : Kind) : Option kind.Value → List (List Char) → Prop
  | given (written : kind.Writes value piece) : Provides kind (some value) [piece]
  | nothing : Provides kind none []

/-- The members of an object provide settings. -/
structure Provided.By (provided : Provided) (members : List (String × List Char)) : Prop where
  address : Provides .text provided.address? (piecesOf "address" members)
  token : Provides .text provided.token? (piecesOf "token" members)
  waitRounds : Provides .count provided.waitRounds? (piecesOf "wait_rounds" members)
  validityRounds : Provides .count provided.validityRounds? (piecesOf "validity_rounds" members)

/-- The members that a settings file may have. -/
def knownMembers : List (String × Kind) :=
  [("address", .text), ("token", .text), ("wait_rounds", .count), ("validity_rounds", .count)]

/-- A known member is repeated, or one of them has a value of another kind. -/
def Spoiled (members : List (String × List Char)) : Prop :=
  ∃ known ∈ knownMembers, 1 < (piecesOf known.1 members).length ∨
    ∃ piece ∈ piecesOf known.1 members, ∀ value, ¬ known.2.Writes value piece

/-- The settings of a file, standard where it gives none. -/
def Provided.settings (provided : Provided) : Settings where
  address := provided.address?.getD standard.address
  token := provided.token?.getD standard.token
  waitRounds := provided.waitRounds?.getD standard.waitRounds
  validityRounds := provided.validityRounds?.getD standard.validityRounds

theorem distinct_fields : (shape.fields.map (·.name)).Nodup := by decide

theorem Provides.holds {field : Field} {provided? : Option field.kind.Value} {value : field.kind.Value}
    {pieces : List (List Char)} (provides : Provides field.kind provided? pieces)
    (fallback : field.default? = some value) : field.Holds (provided?.getD value) pieces := by
  cases provides with
  | given written => exact .given written
  | nothing => exact .missing fallback

theorem Provided.By.holds {provided : Provided} {members : List (String × List Char)}
    (provides : provided.By members) : Holds shape.fields (shape.parts provided.settings) members :=
  ⟨Provides.holds provides.address rfl, Provides.holds provides.token rfl,
    Provides.holds provides.waitRounds rfl, Provides.holds provides.validityRounds rfl, trivial⟩

/-- Where settings are held, each known member stands once at most and with a value of its kind. -/
theorem not_spoiled_of_holds {row : Row shape.fields} {members : List (String × List Char)}
    (holds : Holds shape.fields row members) : ¬ Spoiled members := by
  rintro ⟨known, listed, spoiled⟩
  have same : knownMembers = shape.fields.map fun field => (field.name, field.kind) := rfl
  rw [same] at listed
  obtain ⟨field, known, rfl⟩ := List.mem_map.mp listed
  obtain ⟨value, held⟩ := exists_holds holds known
  generalize piecesOf field.name members = pieces at held spoiled
  cases held with
  | missing _ => exact absurd spoiled (by simp)
  | given written =>
    rcases spoiled with repeated | ⟨piece, found, other⟩
    · exact absurd repeated (by simp)
    · exact other value (List.mem_singleton.mp found ▸ written)

variable {path text : String}

theorem ofFile_encode (path text : String) : ofFile path (.ok (Text.Utf8.encode text)) =
    (shape.parse text).mapError (.json path) := by
  unfold ofFile
  rw [File.text_encode]
  rfl

/-- An object of settings is read with the standard ones for those it lacks. -/
theorem ofFile_of_provides {provided : Provided} {members : List (String × List Char)}
    (object : ObjectText members text) (provides : provided.By members) :
    ofFile path (.ok (Text.Utf8.encode text)) = .ok provided.settings := by
  rw [ofFile_encode, mapError_eq_ok_iff, Shape.parse_eq_ok_iff distinct_fields object]
  exact ⟨_, provides.holds, rfl⟩

/-- A text that is not read as settings is told with the path. -/
theorem ofFile_of_refused (refused : ∀ settings, shape.parse text ≠ .ok settings) :
    ∃ fault, ofFile path (.ok (Text.Utf8.encode text)) = .error (.json path fault) := by
  rw [ofFile_encode]
  cases read : shape.parse text with
  | ok settings => exact absurd read (refused settings)
  | error fault => exact ⟨fault, rfl⟩

theorem ofFile_of_spoiled {members : List (String × List Char)} (object : ObjectText members text)
    (spoiled : Spoiled members) :
    ∃ fault, ofFile path (.ok (Text.Utf8.encode text)) = .error (.json path fault) := by
  refine ofFile_of_refused fun settings read => ?_
  obtain ⟨row, holds, _⟩ := (Shape.parse_eq_ok_iff distinct_fields object).mp read
  exact not_spoiled_of_holds holds spoiled

theorem ofFile_of_not_document (malformed : ¬ Document text) :
    ∃ fault, ofFile path (.ok (Text.Utf8.encode text)) = .error (.json path fault) :=
  ofFile_of_refused fun _ read => malformed (Shape.document_of_parse read)

theorem ofFile_of_unreadable {file : File} (unreadable : ∀ text, file ≠ .ok (Text.Utf8.encode text)) :
    ∃ fault, ofFile path file = .error (.file path fault) := by
  cases read : file.text with
  | error fault =>
    unfold ofFile
    rw [read]
    exact ⟨fault, rfl⟩
  | ok text => exact absurd (File.text_eq_ok_iff.mp read) (unreadable text)

end WalletTools.Node.Settings
