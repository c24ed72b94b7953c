import WalletTools.Keystore.ExtractedKey
import WalletTools.Proofs.Files

/-! Keys extracted from keystores. The address that a document names decides nothing: what is extracted
and why nothing is extracted hang on the other members of the document and on the password. -/
namespace WalletTools.Keystore

/-! ## Members -/

/-- The members of other names. -/
def without (name : String) (members : List (String × Json)) : List (String × Json) :=
  members.filter (·.1 ≠ name)

section

variable {apart : String}

theorem onlyMember?_without {name : String} (other : name ≠ apart) (members : List (String × Json)) :
    onlyMember? (without apart members) name = onlyMember? members name := by
  have same : (without apart members).filter (·.1 = name) = members.filter (·.1 = name) := by
    unfold without
    rw [List.filter_filter]
    refine List.filter_congr fun member _ => ?_
    by_cases named : member.1 = name <;> simp [named, other]
  unfold onlyMember?
  rw [same]

/-- A record does not hang on members that it does not name. -/
theorem recordValues?_without {names : List String} (unnamed : apart ∉ names)
    (members : List (String × Json)) :
    recordValues? names (.object (without apart members)) = recordValues? names (.object members) := by
  change names.mapM _ = names.mapM _
  induction names with
  | nil => rfl
  | cons name names ih =>
    rw [List.mem_cons, not_or] at unnamed
    rw [List.mapM_cons, List.mapM_cons, onlyMember?_without (Ne.symm unnamed.1), ih unnamed.2]

theorem Document.ofJson?_without (members : List (String × Json)) :
    Document.ofJson? (.object (without "address" members)) = Document.ofJson? (.object members) := by
  unfold Document.ofJson?
  rw [recordValues?_without (by decide)]

end

/-! ## Keys -/

/-- The key of a document and its address. -/
def recover (document? : Option Document) (password : String) : Except Error (FixedBytes 32 × Address) :=
  match document? with
  | none => throw (.decryption .document)
  | some document => do
    match FixedBytes.ofList? (← document.decrypt (Text.Utf8.encode password)) with
    | none => throw (.defect .privateKey)
    | some privateKey =>
      match addressOf? privateKey with
      | none => throw (.decryption .privateKey)
      | some address => return (privateKey, address)

/-- The address that a document names is only told beside the key. -/
theorem extract_eq (file : File) (password : String) : extract file password = (do
    let text ← file.text.mapError .file
    let json ← (Json.parse text).mapError .json
    let found ← recover (Document.ofJson? json) password
    return ⟨found.1, found.2, declaredAddress? json⟩) := by
  unfold extract recover
  refine congrArg _ (funext fun text => congrArg _ (funext fun json => ?_))
  cases Document.ofJson? json with
  | none => rfl
  | some document =>
    dsimp only
    rw [bind_assoc]
    refine congrArg _ (funext fun bytes => ?_)
    cases (FixedBytes.ofList? bytes : Option (FixedBytes 32)) with
    | none => rfl
    | some privateKey =>
      dsimp only
      cases addressOf? privateKey with
      | none => rfl
      | some address => rfl

theorem extract_eq_ok_iff {file : File} {password : String} {key : ExtractedKey} :
    extract file password = .ok key ↔ ∃ text json, file = .ok (Text.Utf8.encode text) ∧
      Json.parse text = .ok json ∧
      recover (Document.ofJson? json) password = .ok (key.privateKey, key.address) ∧
      key.declared? = declaredAddress? json := by
  rw [extract_eq]
  simp only [bind_eq_ok_iff, mapError_eq_ok_iff, File.text_eq_ok_iff]
  constructor
  · intro success
    obtain ⟨text, given, json, parsed, found, recovered, done⟩ := success
    cases done
    exact ⟨text, json, given, parsed, recovered, rfl⟩
  · intro given
    obtain ⟨text, json, given, parsed, recovered, declared⟩ := given
    exact ⟨text, given, json, parsed, _, recovered, by rw [← declared]; rfl⟩

/-- What is found in a document, apart from the address that it names. -/
theorem map_extract_of_parse {text : String} {json : Json} (parsed : Json.parse text = .ok json)
    (password : String) : (fun key => (key.privateKey, key.address)) <$>
      extract (.ok (Text.Utf8.encode text)) password = recover (Document.ofJson? json) password := by
  rw [extract_eq, File.text_encode]
  change _ <$> ((Json.parse text).mapError _ >>= _) = _
  rw [parsed]
  change _ <$> (recover _ _ >>= _) = _
  cases recover (Document.ofJson? json) password <;> rfl

/-! ## Failures -/

/-- What can go wrong with a document that is read. -/
inductive Error.Inner : Error → Prop
  | decryption (fault : DecryptionFault) : Inner (.decryption fault)
  | defect (defect : Defect) : Inner (.defect defect)

/-- The step fails by the document that is read or by the password alone. -/
def FailsInside (outcome : Except Error α) : Prop := ∀ error, outcome = .error error → error.Inner

section

variable {first : Except Error α} {next : α → Except Error β}

theorem FailsInside.bind (before : FailsInside first) (behind : ∀ value, FailsInside (next value)) :
    FailsInside (first >>= next) := by
  intro error failed
  rcases bind_eq_error_iff.mp failed with fault | ⟨value, _, fault⟩
  · exact before error fault
  · exact behind value error fault

theorem failsInside_ok (value : α) : FailsInside (.ok value) := fun _ => nofun

theorem failsInside_error {error : Error} (inner : error.Inner) :
    FailsInside (.error error : Except Error α) := by
  intro other same
  cases same
  exact inner

end

theorem failsInside_decrypt (document : Document) (password : Bytes) :
    FailsInside (document.decrypt password) := by
  refine .bind ?_ fun derived => ?_
  · intro error failed
    obtain ⟨fault, _, rfl⟩ := mapError_eq_error_iff.mp failed
    exact .decryption _
  · split
    · intro error failed
      rcases refuse_eq_error_iff.mp failed with ⟨_, rfl⟩ | ⟨_, failed⟩
      · exact .decryption _
      · split at failed <;> cases failed
        exact .defect _
    · exact failsInside_error (.defect _)

theorem failsInside_recover (document? : Option Document) (password : String) :
    FailsInside (recover document? password) := by
  unfold recover
  cases document? with
  | none => exact failsInside_error (.decryption _)
  | some document =>
    refine .bind (failsInside_decrypt document _) fun bytes => ?_
    split
    · exact failsInside_error (.defect _)
    · split
      · exact failsInside_error (.decryption _)
      · exact failsInside_ok _

/-- Nothing is extracted because the file is no text, its text is no value, or by the value. -/
theorem extract_eq_error_iff {file : File} {password : String} {error : Error} :
    extract file password = .error error ↔
      (∃ fault, file.text = .error fault ∧ error = .file fault) ∨
      ∃ text, file = .ok (Text.Utf8.encode text) ∧
        ((∃ fault, Json.parse text = .error fault ∧ error = .json fault) ∨
          ∃ json, Json.parse text = .ok json ∧
            recover (Document.ofJson? json) password = .error error) := by
  have kept (key : ExtractedKey) : (pure key : Except Error ExtractedKey) ≠ .error error := nofun
  rw [extract_eq]
  simp only [bind_eq_error_iff, mapError_eq_error_iff, mapError_eq_ok_iff, File.text_eq_ok_iff, kept,
    and_false, exists_false, or_false]

/-- No address is a reason to fail. -/
theorem extract_ne_address (file : File) (password text : String) :
    extract file password ≠ .error (.address text) := by
  intro failed
  rcases extract_eq_error_iff.mp failed with ⟨_, _, same⟩ | ⟨_, _, ⟨_, _, same⟩ | ⟨_, _, inner⟩⟩
  · cases same
  · cases same
  · cases failsInside_recover _ _ _ inner

/-- The text of a document is at fault just where it is no value that can be kept. -/
theorem extract_eq_json_iff {text password : String} {fault : Json.Fault} :
    extract (.ok (Text.Utf8.encode text)) password = .error (.json fault) ↔
      Json.parse text = .error fault := by
  rw [extract_eq_error_iff]
  constructor
  · intro failed
    rcases failed with ⟨_, unread, _⟩ | ⟨other, same, ⟨_, refused, told⟩ | ⟨_, _, inner⟩⟩
    · cases unread.symm.trans (File.text_encode text)
    · cases told
      obtain rfl := Except.ok.inj ((File.text_eq_ok_iff.mpr same).symm.trans (File.text_encode text))
      exact refused
    · cases failsInside_recover _ _ _ inner
  · intro refused
    exact .inr ⟨text, rfl, .inl ⟨fault, refused, rfl⟩⟩

/-! ## Addresses -/

/-- The values of the members of a name. -/
def valuesOf (name : String) (members : List (String × Json)) : List Json :=
  (members.filter (·.1 = name)).map (·.2)

theorem member?_object (name : String) (members : List (String × Json)) :
    Json.member? name (.object members) = (valuesOf name members).getLast? := by
  have first (members : List (String × Json)) : members.lookup name = (valuesOf name members).head? := by
    induction members with
    | nil => rfl
    | cons member members ih =>
      obtain ⟨other, value⟩ := member
      by_cases named : other = name
      · subst named
        simp [valuesOf]
      · have apart : (name == other) = false := by simpa using Ne.symm named
        rw [List.lookup_cons, apart]
        simpa [valuesOf, named] using ih
  change members.reverse.lookup name = _
  rw [first, valuesOf, List.filter_reverse, List.map_reverse, List.head?_reverse]
  rfl

theorem declaredAddress?_eq_some_iff {json : Json} {address : Address} :
    declaredAddress? json = some address ↔ ∃ members text, json = .object members ∧
      (valuesOf "address" members).getLast? = some (.text text) ∧ Address.parse text = .ok address := by
  have named {text : String} : (Json.member? "address" json).bind Json.text? = some text ↔
      ∃ members, json = .object members ∧ (valuesOf "address" members).getLast? = some (.text text) := by
    rw [Option.bind_eq_some_iff]
    constructor
    · intro given
      obtain ⟨value, found, told⟩ := given
      cases json with
      | object members =>
        rw [member?_object] at found
        cases value with
        | text _ => cases told; exact ⟨members, rfl, found⟩
        | _ => cases told
      | _ => cases found
    · intro given
      obtain ⟨members, rfl, found⟩ := given
      exact ⟨_, (member?_object "address" members).trans found, rfl⟩
  change ((Json.member? "address" json).bind Json.text?).bind _ = _ ↔ _
  rw [Option.bind_eq_some_iff]
  constructor
  · intro given
    obtain ⟨text, found, told⟩ := given
    obtain ⟨members, same, last⟩ := named.mp found
    cases parsed : Address.parse text with
    | error fault =>
      rw [parsed] at told
      cases told
    | ok other =>
      rw [parsed] at told
      cases told
      exact ⟨members, text, same, last, parsed⟩
  · intro given
    obtain ⟨members, text, same, last, parsed⟩ := given
    exact ⟨text, named.mpr ⟨members, same, last⟩, by rw [parsed]; rfl⟩

/-- A document names another address than that of its key if the last of its addresses does. -/
theorem matchesDeclared_eq_false_iff {key : ExtractedKey} :
    key.matchesDeclared = false ↔ ∃ other, key.declared? = some other ∧ other ≠ key.address := by
  unfold ExtractedKey.matchesDeclared
  cases key.declared? <;> simp

end WalletTools.Keystore
