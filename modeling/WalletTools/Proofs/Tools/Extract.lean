import WalletTools.Proofs.Keystore.Sealed
import WalletTools.Tools.Extract

/-! Extractions. The address that a keystore names changes neither the key that is found nor what is
written, and a key is written whole or not at all. -/
namespace WalletTools.Tools

open Keystore (ExtractedKey Address valuesOf without)

/-- Two extractions end alike, whatever addresses their documents name. -/
inductive SameKey : Except Keystore.Error ExtractedKey → Except Keystore.Error ExtractedKey → Prop
  | failed (error : Keystore.Error) : SameKey (.error error) (.error error)
  | found (privateKey : key.privateKey = other.privateKey) (address : key.address = other.address) :
      SameKey (.ok key) (.ok other)

/-- The last address that a keystore names is that of another key. -/
def NamesOther (file : File) (key : ExtractedKey) : Prop :=
  ∃ text members named other, file = .ok (Text.Utf8.encode text) ∧
    Json.parse text = .ok (.object members) ∧
    (valuesOf "address" members).getLast? = some (.text named) ∧
    Address.parse named = .ok other ∧ other ≠ key.address

/-- How the tool ends by what is extracted, and what it has written then: nothing where it fails, and the
digits of the key and the end of the line where there is one. -/
inductive Prints : Except Keystore.Error ExtractedKey → Except Error ExtractedKey × Bytes → Prop
  | nothing (error : Keystore.Error) : Prints (.error error) (.error (.keystore error), [])
  | key (size : digits.toList.length = 64) (lower : ∀ digit ∈ digits.toList, digit ∈ Hex.lowerDigits)
      (decoded : Hex.decode? digits = some key.privateKey.toList) :
      Prints (.ok key) (.ok key, Text.Utf8.encode (digits ++ "\n"))

theorem sameKey_of_map_eq {one two : Except Keystore.Error ExtractedKey}
    (same : (fun key => (key.privateKey, key.address)) <$> one =
      (fun key => (key.privateKey, key.address)) <$> two) : SameKey one two := by
  cases one with
  | error error =>
    cases two with
    | error other => cases same; exact .failed error
    | ok key => cases same
  | ok key =>
    cases two with
    | error other => cases same
    | ok other =>
      obtain ⟨privateKey, address⟩ := Prod.mk.inj (Except.ok.inj same)
      exact .found privateKey address

theorem matchesDeclared_of_extract {file : File} {password : String} {key : ExtractedKey}
    (success : Keystore.extract file password = .ok key) :
    key.matchesDeclared = false ↔ NamesOther file key := by
  obtain ⟨text, json, rfl, parsed, _, declared⟩ := Keystore.extract_eq_ok_iff.mp success
  rw [Keystore.matchesDeclared_eq_false_iff, declared]
  simp only [Keystore.declaredAddress?_eq_some_iff]
  unfold NamesOther
  constructor
  · intro given
    obtain ⟨other, ⟨members, named, rfl, last, written⟩, different⟩ := given
    exact ⟨text, members, named, other, rfl, parsed, last, written, different⟩
  · intro given
    obtain ⟨content, members, named, other, same, read, last, written, different⟩ := given
    cases Text.Utf8.encode_injective (Except.ok.inj same)
    exact ⟨other, ⟨members, named, Except.ok.inj (parsed.symm.trans read), last, written⟩, different⟩

theorem prints_extract (file : File) (password : String) :
    Prints (Keystore.extract file password) ((extract file password).start none) := by
  unfold extract
  cases Keystore.extract file password with
  | error error => exact .nothing error
  | ok key =>
    have size := Hex.length_encode key.privateKey.toList
    rw [key.privateKey.length_toList] at size
    exact .key size (fun _ => Hex.mem_lowerDigits_of_mem_encode) (Hex.decode?_encode _)

/-- The address that a keystore names has no part in an extraction where the document can be read: documents
that differ in it alone give the same, no address is a reason to fail, and a difference is told only where
the last address is one and another. A document that cannot be read is refused for it, and this is the only
way in which an address can matter. Whatever the file is, its key is written whole or nothing is. -/
theorem extract_ignores_declared_address (password : String) :
    (∀ one two members others, Json.parse one = .ok (.object members) →
      Json.parse two = .ok (.object others) → without "address" members = without "address" others →
      SameKey (Keystore.extract (.ok (Text.Utf8.encode one)) password)
        (Keystore.extract (.ok (Text.Utf8.encode two)) password)) ∧
    (∀ text fault, Keystore.extract (.ok (Text.Utf8.encode text)) password = .error (.json fault) ↔
      Json.parse text = .error fault) ∧
    ∀ file, (∀ text, Keystore.extract file password ≠ .error (.address text)) ∧
      (∀ key, Keystore.extract file password = .ok key →
        (key.matchesDeclared = false ↔ NamesOther file key)) ∧
      Prints (Keystore.extract file password) ((extract file password).start none) := by
  refine ⟨fun one two members others first second same => ?_, fun text fault => ?_,
    fun file => ⟨?_, ?_, ?_⟩⟩
  · refine sameKey_of_map_eq ?_
    rw [Keystore.map_extract_of_parse first, Keystore.map_extract_of_parse second,
      ← Keystore.Document.ofJson?_without members, same, Keystore.Document.ofJson?_without]
  · exact Keystore.extract_eq_json_iff
  · exact Keystore.extract_ne_address file password
  · exact fun key success => matchesDeclared_of_extract success
  · exact prints_extract file password

/-! ## A sample -/

/-- The private key one. -/
def privateOne : FixedBytes 32 := ⟨List.replicate 31 0 ++ [1], rfl⟩

/-- A document that holds it under no password. -/
def sample : Keystore.Document := Keystore.sealKey "" 1 [] (.zero 16) privateOne

def sampleFile (named? : Option String) : File := .ok (Text.Utf8.encode (sample.text named?))

theorem fits_sample : sample.derivation.Fits := ⟨by decide, by decide⟩

theorem extract_sample : ∃ address, ∀ named?, Keystore.extract (sampleFile named?) "" =
    .ok ⟨privateOne, address, named? >>= Address.parse?⟩ := by
  obtain ⟨address, known⟩ : ∃ address, Keystore.addressOf? privateOne = some address :=
    Keystore.exists_addressOf?_iff.mpr (by decide)
  exact ⟨address, Keystore.extract_sealKey known "" (by decide) [] (.zero 16)⟩

/-- The sample without an address and with another one than that of its key: both give the key, which is
written whole, and the other address is told apart. -/
theorem extract_ignores_declared_address_sample : ∃ address other : Address, ∃ members others,
    Json.parse (sample.text none) = .ok (.object members) ∧
    Json.parse (sample.text (some other.toText)) = .ok (.object others) ∧
    without "address" members = without "address" others ∧
    Keystore.extract (sampleFile none) "" = .ok ⟨privateOne, address, none⟩ ∧
    Keystore.extract (sampleFile (some other.toText)) "" = .ok ⟨privateOne, address, some other⟩ ∧
    SameKey (Keystore.extract (sampleFile none) "") (Keystore.extract (sampleFile (some other.toText)) "") ∧
    NamesOther (sampleFile (some other.toText)) ⟨privateOne, address, some other⟩ ∧
    (extract (sampleFile (some other.toText)) "").start none = (.ok ⟨privateOne, address, some other⟩,
      Text.Utf8.encode (String.ofList (List.replicate 63 '0') ++ "1" ++ "\n")) := by
  obtain ⟨address, found⟩ := extract_sample
  obtain ⟨other, different⟩ : ∃ other : Address, other ≠ address := by
    by_cases zero : address = .zero 20
    · exact ⟨⟨List.replicate 20 1, rfl⟩, by rw [zero]; decide⟩
    · exact ⟨.zero 20, Ne.symm zero⟩
  have named : Keystore.extract (sampleFile (some other.toText)) "" =
      .ok ⟨privateOne, address, some other⟩ := by
    rw [found, Option.bind_eq_bind, Option.bind_some, Keystore.Address.parse?_toText]
  have one := Json.parse_compact (Keystore.Document.orderly_toJson fits_sample none)
  have two := Json.parse_compact (Keystore.Document.orderly_toJson fits_sample (some other.toText))
  obtain ⟨alike, _, each⟩ := extract_ignores_declared_address ""
  obtain ⟨_, told, _⟩ := each (sampleFile (some other.toText))
  have unlike : (ExtractedKey.mk privateOne address (some other)).matchesDeclared = false :=
    Keystore.matchesDeclared_eq_false_iff.mpr ⟨other, rfl, different⟩
  refine ⟨address, other, _, _, one, two, rfl, found none, named, alike _ _ _ _ one two rfl,
    (told _ named).mp unlike, ?_⟩
  unfold extract
  rw [named]
  rfl

/-- Half a pair of escapes, in its marks. -/
def halfPair : List Char := ['"', '\\', 'u', 'd', '8', '0', '0', '"']

/-- The sample with such a text as its address is an object with the same other members, but its key is not
extracted. -/
theorem extract_half_address :
    Json.ObjectText sample.pieces (sample.text none) ∧
    Json.ObjectText (("address", halfPair) :: sample.pieces) (sample.textWith halfPair) ∧
    ∃ key fault, Keystore.extract (sampleFile none) "" = .ok key ∧
      Keystore.extract (.ok (Text.Utf8.encode (sample.textWith halfPair))) "" = .error (.json fault) ∧
      ¬ SameKey (.ok key) (.error (.json fault)) := by
  have written : Json.WellFormed halfPair := by
    have half : Json.EscapeText .passed _ _ :=
      .unit (.mk (show Json.hexValue? 'd' = some 13 by decide) (show Json.hexValue? '8' = some 8 by decide)
        (show Json.hexValue? '0' = some 0 by decide) (show Json.hexValue? '0' = some 0 by decide)) nofun
    exact ⟨0, _, .text (.escaped half .nil)⟩
  obtain ⟨plain, addressed⟩ := Keystore.Document.objectText_text fits_sample
  obtain ⟨address, found⟩ := extract_sample
  obtain ⟨fault, refused⟩ : ∃ fault, Json.parse (sample.textWith halfPair) = .error fault := by
    cases parsed : Json.parse (sample.textWith halfPair) with
    | error fault => exact ⟨fault, rfl⟩
    | ok json => exact absurd parsed (Keystore.Document.parse_textWith_ne Json.unread_half json)
  exact ⟨plain, addressed halfPair written, _, fault, found none,
    Keystore.extract_eq_json_iff.mpr refused, nofun⟩

end WalletTools.Tools
