import WalletTools.Proofs.Ledger.Account
import WalletTools.Proofs.Ledger.Decoding
import WalletTools.Proofs.MessagePack.Shortest

/-! The grammar of root keys. A record is a map that names both keys or an array of the two; it is read
exactly where it follows one of these forms, and either form gives the same key. The account of a key is
that of the first half of its secret key. -/
namespace WalletTools.Ledger.RootKey

open MessagePack

/-- An entry of a root key's map. -/
inductive Entry
  | publicKey (key : FixedBytes 32)
  | secretKey (key : FixedBytes 64)
deriving DecidableEq

namespace Entry

def name : Entry → String
  | .publicKey _ => "SignatureVerifier"
  | .secretKey _ => "SK"

/-- A key is a byte string of the length that belongs to its name. -/
inductive Content : Entry → Bytes → Prop
  | publicKey {key : FixedBytes 32} (value : FixedForm 32 key piece) : Content (.publicKey key) piece
  | secretKey {key : FixedBytes 64} (value : FixedForm 64 key piece) : Content (.secretKey key) piece

def publicKey? : Entry → Option (FixedBytes 32)
  | .publicKey key => some key
  | .secretKey _ => none

def secretKey? : Entry → Option (FixedBytes 64)
  | .publicKey _ => none
  | .secretKey key => some key

end Entry

/-- A map of so many entries that names both keys. -/
def MapForm : Form RootKey := fun key piece =>
  ∃ entries header body, MapHeader entries.length header ∧
    Form.Each (NamedForm Entry.name Entry.Content) entries body ∧ piece = header ++ body ∧
    lastGiven Entry.publicKey? entries = some key.publicKey ∧
    lastGiven Entry.secretKey? entries = some key.secretKey

/-- An array of the public key and the secret key. -/
def ArrayForm : Form RootKey := fun key piece =>
  ∃ header front back, ArrayHeader 2 header ∧ FixedForm 32 key.publicKey front ∧
    FixedForm 64 key.secretKey back ∧ piece = header ++ (front ++ back)

def form : Form RootKey := fun key piece => MapForm key piece ∨ ArrayForm key piece

/-! ## Maps -/

def Draft.set (draft : Draft) : Entry → Draft
  | .publicKey key => { draft with publicKey? := some key }
  | .secretKey key => { draft with secretKey? := some key }

private theorem rootEntry_follows (draft : Draft) : Follows (readEntry draft) fun next piece =>
    ∃ entry, NamedForm Entry.name Entry.Content entry piece ∧ next = draft.set entry := by
  unfold readEntry
  refine Decoder.named_follows Entry.name Entry.Content draft.set fun name => ?_
  split
  · refine ((Decoder.read_follows (readFixed_follows 32)).map _).congr fun next piece => ?_
    constructor
    · intro stands
      obtain ⟨key, value, rfl⟩ := stands
      exact ⟨.publicKey key, rfl, .publicKey value, rfl⟩
    · intro stands
      obtain ⟨entry, named, content, rfl⟩ := stands
      cases content with
      | publicKey value => exact ⟨_, value, rfl⟩
      | secretKey _ => exact absurd named (show "SK" ≠ "SignatureVerifier" by decide)
  · refine ((Decoder.read_follows (readFixed_follows 64)).map _).congr fun next piece => ?_
    constructor
    · intro stands
      obtain ⟨key, value, rfl⟩ := stands
      exact ⟨.secretKey key, rfl, .secretKey value, rfl⟩
    · intro stands
      obtain ⟨entry, named, content, rfl⟩ := stands
      cases content with
      | publicKey _ => exact absurd named (show "SignatureVerifier" ≠ "SK" by decide)
      | secretKey value => exact ⟨_, value, rfl⟩
  · refine (Follows.throw _).congr fun next piece => ⟨False.elim, ?_⟩
    intro stands
    obtain ⟨entry, rfl, _⟩ := stands
    cases entry <;> contradiction

/-- The draft after all entries of a map holds the last key of each name. -/
private theorem rootFoldl_set (entries : List Entry) : entries.foldl Draft.set ⟨none, none⟩ =
    ⟨lastGiven Entry.publicKey? entries, lastGiven Entry.secretKey? entries⟩ := by
  have first := get_foldl_eq_lastGiven Draft.set Draft.publicKey? Entry.publicKey?
    (fun draft entry => by cases entry <;> rfl) entries ⟨none, none⟩
  have second := get_foldl_eq_lastGiven Draft.set Draft.secretKey? Entry.secretKey?
    (fun draft entry => by cases entry <;> rfl) entries ⟨none, none⟩
  rw [Option.or_none] at first second
  rw [← first, ← second]

/-- A map of so many entries, and what the last ones of each name give. -/
def MapDraft : Form Draft := fun draft piece => ∃ entries header body,
  MapHeader entries.length header ∧ Form.Each (NamedForm Entry.name Entry.Content) entries body ∧
    piece = header ++ body ∧
    draft = ⟨lastGiven Entry.publicKey? entries, lastGiven Entry.secretKey? entries⟩

/-- What is read where a record begins with the header of a map. -/
def mapDrafts : Decoder Draft := do readEntries (← .read readMap) ⟨none, none⟩

private theorem mapDrafts_follows : Follows mapDrafts MapDraft := by
  refine (Decoder.map_follows rootEntry_follows
    ⟨none, none⟩).congr fun draft piece => ?_
  simp only [rootFoldl_set, MapDraft]

/-! ## Arrays -/

/-- The keys that an array of so many elements holds. -/
inductive Elements : Nat → Draft → Bytes → Prop
  | none : Elements 0 ⟨none, none⟩ []
  | one {publicKey : FixedBytes 32} (first : FixedForm 32 publicKey front) :
      Elements 1 ⟨some publicKey, none⟩ front
  | both {publicKey : FixedBytes 32} {secretKey : FixedBytes 64} (first : FixedForm 32 publicKey front)
      (second : FixedForm 64 secretKey back) :
      Elements 2 ⟨some publicKey, some secretKey⟩ (front ++ back)

private theorem readElements_follows : (count : Nat) → Follows (readElements count) (Elements count)
  | 0 => (Follows.pure _).congr fun draft piece => by
    constructor
    · intro stands
      obtain ⟨rfl, rfl⟩ := stands
      exact .none
    · intro elements
      cases elements
      exact ⟨rfl, rfl⟩
  | 1 => ((Decoder.read_follows (readFixed_follows 32)).map _).congr fun draft piece => by
    constructor
    · intro stands
      obtain ⟨key, value, rfl⟩ := stands
      exact .one value
    · intro elements
      cases elements with
      | one value => exact ⟨_, value, rfl⟩
  | 2 => ((Decoder.read_follows (readFixed_follows 32)).bind fun publicKey =>
      (Decoder.read_follows (readFixed_follows 64)).map _).congr fun draft piece => by
    constructor
    · intro stands
      obtain ⟨_, front, back, first, ⟨_, second, rfl⟩, rfl⟩ := stands
      exact .both first second
    · intro elements
      cases elements with
      | both first second => exact ⟨_, _, _, first, ⟨_, second, rfl⟩, rfl⟩
  | count + 3 => (Follows.throw _).congr fun draft piece => ⟨False.elim, nofun⟩

/-- An array of no more than two elements. -/
def ArrayDraft : Form Draft := fun draft piece =>
  ∃ count header body, ArrayHeader count header ∧ Elements count draft body ∧ piece = header ++ body

/-- What is read where a record does not begin with the header of a map. -/
def arrayDrafts : Decoder Draft := do readElements (← .read readArray)

private theorem arrayDrafts_follows : Follows arrayDrafts ArrayDraft :=
  (Decoder.read_follows readArray_follows).bind readElements_follows

/-! ## Records -/

theorem decoder_eq_trying : decoder = trying readMap mapDrafts arrayDrafts := by
  unfold decoder trying outcome
  refine congrArg _ (funext fun bytes => ?_)
  cases (readMap.run bytes).1 <;> rfl

theorem draft_follows : Follows decoder fun draft piece => MapDraft draft piece ∨ ArrayDraft draft piece := by
  rw [decoder_eq_trying]
  refine Follows.trying readMap_follows mapDrafts_follows arrayDrafts_follows ?_ ?_
  · intro draft piece stands
    obtain ⟨entries, header, body, counted, _, rfl, _⟩ := stands
    exact ⟨_, header, body, counted, rfl⟩
  · intro draft piece count front left right stands counted
    obtain ⟨_, header, body, array, _, rfl⟩ := stands
    rw [List.append_assoc]
    exact mapHeader_ne_arrayHeader counted array left (body ++ right)

/-- A draft that has both keys. -/
def complete (draft : Draft) : Except Error RootKey :=
  match draft.publicKey?, draft.secretKey? with
  | some publicKey, some secretKey => return ⟨publicKey, secretKey⟩
  | none, _ => throw (.decoding (.missingRootKeyField .publicKey))
  | some _, none => throw (.decoding (.missingRootKeyField .secretKey))

theorem complete_eq_ok_iff {draft : Draft} {key : RootKey} :
    complete draft = .ok key ↔ draft = ⟨some key.publicKey, some key.secretKey⟩ := by
  obtain ⟨publicKey?, secretKey?⟩ := draft
  obtain ⟨publicKey, secretKey⟩ := key
  cases publicKey? <;> cases secretKey? <;> simp [complete, pure, Except.pure, throw, throwThe,
    MonadExceptOf.throw]

theorem decode_eq (bytes : Bytes) :
    decode bytes = (decoder.whole .rootKey).decode bytes >>= complete := rfl

theorem decode_eq_ok_iff {bytes : Bytes} {key : RootKey} : decode bytes = .ok key ↔ form key bytes := by
  rw [decode_eq, Decoder.decode_whole_bind draft_follows]
  simp only [complete_eq_ok_iff]
  constructor
  · intro given
    obtain ⟨_, ⟨entries, header, body, counted, each, rfl, draft⟩ | stands, rfl⟩ := given
    · obtain ⟨publicKey, secretKey⟩ := Draft.mk.inj draft
      exact .inl ⟨entries, header, body, counted, each, rfl, publicKey.symm, secretKey.symm⟩
    · obtain ⟨_, header, _, array, elements, rfl⟩ := stands
      cases elements with
      | both first second => exact .inr ⟨header, _, _, array, first, second, rfl⟩
  · intro stands
    rcases stands with ⟨entries, header, body, counted, each, rfl, publicKey, secretKey⟩ | stands
    · exact ⟨_, .inl ⟨entries, header, body, counted, each, rfl, by rw [publicKey, secretKey]⟩, rfl⟩
    · obtain ⟨header, front, back, array, first, second, rfl⟩ := stands
      exact ⟨_, .inr ⟨2, header, _, array, .both first second, rfl⟩, rfl⟩

/-! ## Either form -/

/-- Pieces for the names of a map's fields and for the keys. -/
structure Pieces (key : RootKey) (verifier publicKey secret secretKey : Bytes) : Prop where
  verifier : StrForm "SignatureVerifier" verifier
  publicKey : FixedForm 32 key.publicKey publicKey
  secret : StrForm "SK" secret
  secretKey : FixedForm 64 key.secretKey secretKey

section

variable {key : RootKey} {verifier publicKey secret secretKey : Bytes}
  (pieces : Pieces key verifier publicKey secret secretKey)
include pieces

theorem Pieces.named_publicKey :
    NamedForm Entry.name Entry.Content (.publicKey key.publicKey) (verifier ++ publicKey) :=
  ⟨verifier, publicKey, pieces.verifier, .publicKey pieces.publicKey, rfl⟩

theorem Pieces.named_secretKey :
    NamedForm Entry.name Entry.Content (.secretKey key.secretKey) (secret ++ secretKey) :=
  ⟨secret, secretKey, pieces.secret, .secretKey pieces.secretKey, rfl⟩

theorem Pieces.decode_array (header : ArrayHeader 2 array) :
    decode (array ++ (publicKey ++ secretKey)) = .ok key :=
  decode_eq_ok_iff.mpr (.inr ⟨array, publicKey, secretKey, header, pieces.publicKey, pieces.secretKey, rfl⟩)

theorem Pieces.decode_map (header : MapHeader 2 map) :
    decode (map ++ ((verifier ++ publicKey) ++ (secret ++ secretKey))) = .ok key :=
  decode_eq_ok_iff.mpr (.inl ⟨[.publicKey key.publicKey, .secretKey key.secretKey], map, _, header,
    .pair pieces.named_publicKey pieces.named_secretKey, rfl, rfl, rfl⟩)

theorem Pieces.decode_map_swapped (header : MapHeader 2 map) :
    decode (map ++ ((secret ++ secretKey) ++ (verifier ++ publicKey))) = .ok key :=
  decode_eq_ok_iff.mpr (.inl ⟨[.secretKey key.secretKey, .publicKey key.publicKey], map, _, header,
    .pair pieces.named_secretKey pieces.named_publicKey, rfl, rfl, rfl⟩)

end

theorem exists_account_iff {key : RootKey} {seed : FixedBytes 32}
    (first : seed.toList = key.secretKey.toList.take 32) :
    (∃ account, key.account = .ok account) ↔ Curve.Ed25519.publicKey seed = key.publicKey := by
  have same : seed = key.seed := FixedBytes.ext first
  subst same
  constructor
  · intro given
    obtain ⟨account, found⟩ := given
    obtain ⟨seed, address⟩ := account_eq_ok_iff.mp found
    rw [← seed]
    exact congrArg Address.publicKey address
  · intro derived
    exact ⟨⟨key.seed⟩, account_eq_ok_iff.mpr ⟨rfl, congrArg Address.mk derived⟩⟩

/-- A key is read from a map or an array, and from nothing else; it is the same from the one and from the
other, in either order of the map. Its account is that of the first half of the secret key, if the public
key is that of this half. -/
theorem decode_either_form :
    (∀ bytes key, decode bytes = .ok key ↔ MapForm key bytes ∨ ArrayForm key bytes) ∧
    (∀ key map array verifier publicKey secret secretKey, MapHeader 2 map → ArrayHeader 2 array →
      Pieces key verifier publicKey secret secretKey →
      decode (array ++ (publicKey ++ secretKey)) = .ok key ∧
      decode (map ++ ((verifier ++ publicKey) ++ (secret ++ secretKey))) = .ok key ∧
      decode (map ++ ((secret ++ secretKey) ++ (verifier ++ publicKey))) = .ok key) ∧
    ∀ (key : RootKey) (seed : FixedBytes 32), seed.toList = key.secretKey.toList.take 32 →
      ((∃ account, key.account = .ok account) ↔ Curve.Ed25519.publicKey seed = key.publicKey) ∧
      ∀ account, key.account = .ok account → account.seed = seed := by
  refine ⟨fun bytes key => decode_eq_ok_iff, ?_, ?_⟩
  · intro key map array verifier publicKey secret secretKey map_header array_header pieces
    exact ⟨pieces.decode_array array_header, pieces.decode_map map_header,
      pieces.decode_map_swapped map_header⟩
  · intro key seed first
    refine ⟨exists_account_iff first, fun account found => ?_⟩
    rw [(account_eq_ok_iff.mp found).1]
    exact (FixedBytes.ext first).symm

/-- The key of the seed of zeros. -/
private def zeroKey : RootKey := ⟨Curve.Ed25519.publicKey (.zero 32), .zero 64⟩

/-- The key of zeros from an array and from a map, and its account. -/
theorem decode_either_form_zero :
    decode ([0x92] ++ (writeBin zeroKey.publicKey.toList ++ writeBin zeroKey.secretKey.toList)) =
      .ok zeroKey ∧
    decode ([0x82] ++ ((writeStr "SK" ++ writeBin zeroKey.secretKey.toList) ++
      (writeStr "SignatureVerifier" ++ writeBin zeroKey.publicKey.toList))) = .ok zeroKey ∧
    ∃ account, zeroKey.account = .ok account := by
  have pieces : Pieces zeroKey (writeStr "SignatureVerifier") (writeBin zeroKey.publicKey.toList)
      (writeStr "SK") (writeBin zeroKey.secretKey.toList) :=
    ⟨writeStr_form (by decide), writeBin_form (by rw [FixedBytes.length_toList]; decide),
      writeStr_form (by decide), writeBin_form (by rw [FixedBytes.length_toList]; decide)⟩
  obtain ⟨array, _, map⟩ := decode_either_form.2.1 _ _ _ _ _ _ _ (.fix (show 2 < 16 by decide))
    (.fix (show 2 < 16 by decide)) pieces
  exact ⟨array, map, (decode_either_form.2.2 zeroKey (.zero 32) rfl).1.mpr rfl⟩

end WalletTools.Ledger.RootKey
