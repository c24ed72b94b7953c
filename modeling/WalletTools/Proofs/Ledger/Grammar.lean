import Mathlib.Data.List.Induction
import WalletTools.Ledger.SignedTransaction
import WalletTools.Proofs.Ledger.Decoding
import WalletTools.Proofs.Ledger.Fields

/-! The grammar of payments and of signed payments, and that the decoders accept exactly what it
describes: maps of any width, with their entries in any order and any number of times. -/
namespace WalletTools.Ledger

open MessagePack

/-- A payment: a map of so many entries whose last type is that of payments. -/
def Transaction.form : Form Transaction := fun transaction piece =>
  ∃ entries header body, MapHeader entries.length header ∧ Form.Each Entry.form entries body ∧
    piece = header ++ body ∧ lastOf .type entries = some paymentType ∧
    transaction = ofEntries entries

namespace SignedTransaction

/-- An entry of a signed payment's map. -/
inductive Entry
  | sig (signature : FixedBytes 64)
  | txn (transaction : Transaction)
deriving DecidableEq

def Entry.signature? : Entry → Option (FixedBytes 64)
  | .sig signature => some signature
  | .txn _ => none

def Entry.transaction? : Entry → Option Transaction
  | .sig _ => none
  | .txn transaction => some transaction

/-- A name in any width, and behind it a signature or a whole payment. -/
inductive EntryForm : Entry → Bytes → Prop
  | sig {signature : FixedBytes 64} (key : StrForm "sig" front) (value : FixedForm 64 signature back) :
      EntryForm (.sig signature) (front ++ back)
  | txn {transaction : Transaction} (key : StrForm "txn" front) (value : transaction.form back) :
      EntryForm (.txn transaction) (front ++ back)

/-- A signed payment: a map of so many entries that names both a payment and a signature. -/
def form : Form SignedTransaction := fun signed piece =>
  ∃ entries header body, MapHeader entries.length header ∧ Form.Each EntryForm entries body ∧
    piece = header ++ body ∧ lastGiven Entry.transaction? entries = some signed.transaction ∧
    lastGiven Entry.signature? entries = some signed.signature

end SignedTransaction

/-! ## Payments -/

namespace Transaction

/-- A draft in which an entry has been taken down. -/
def Draft.set (draft : Draft) : Entry → Draft
  | ⟨.amount, amount⟩ => { draft with transaction := { draft.transaction with amount := amount } }
  | ⟨.fee, fee⟩ => { draft with transaction := { draft.transaction with fee := fee } }
  | ⟨.firstValid, round⟩ => { draft with transaction := { draft.transaction with firstValid := round } }
  | ⟨.genesisId, text⟩ => { draft with transaction := { draft.transaction with genesisId := text } }
  | ⟨.genesisHash, hash⟩ => { draft with transaction := { draft.transaction with genesisHash := hash } }
  | ⟨.lastValid, round⟩ => { draft with transaction := { draft.transaction with lastValid := round } }
  | ⟨.note, note⟩ => { draft with transaction := { draft.transaction with note := note } }
  | ⟨.receiver, key⟩ => { draft with transaction := { draft.transaction with receiver := ⟨key⟩ } }
  | ⟨.sender, key⟩ => { draft with transaction := { draft.transaction with sender := ⟨key⟩ } }
  | ⟨.type, type⟩ => { draft with type? := some type }

/-- What stands behind a name in an entry, and what an entry with it makes of a draft. -/
private def behindName (draft : Draft) (name : String) : Form Draft := fun next piece =>
  ∃ entry : Entry, entry.field.name = name ∧ entry.field.form entry.value piece ∧
    next = draft.set entry

private theorem value_follows {draft : Draft} (field : Field) {reader : Reader field.Value}
    (follows : Follows reader field.form) {change : field.Value → Draft}
    (same : ∀ value, change value = draft.set ⟨field, value⟩) :
    Follows (Decoder.read reader >>= fun value => pure (change value))
      (behindName draft field.name) := by
  refine ((Decoder.read_follows follows).map change).congr fun next piece => ?_
  constructor
  · intro stands
    obtain ⟨value, stands, rfl⟩ := stands
    exact ⟨⟨field, value⟩, rfl, stands, same value⟩
  · intro stands
    obtain ⟨⟨other, value⟩, named, stands, rfl⟩ := stands
    obtain rfl := Field.name_injective named
    exact ⟨value, stands, (same value).symm⟩

private theorem readEntry_follows (draft : Draft) : Follows (readEntry draft)
    (fun next piece => ∃ entry, Entry.form entry piece ∧ next = draft.set entry) := by
  unfold readEntry
  refine Decoder.named_follows (fun entry : Entry => entry.field.name)
    (fun entry => entry.field.form entry.value) draft.set fun name => (?_ : Follows _ (behindName draft name))
  split
  · exact value_follows .amount readUInt_follows fun _ => rfl
  · exact value_follows .fee readUInt_follows fun _ => rfl
  · exact value_follows .firstValid readUInt_follows fun _ => rfl
  · exact value_follows .genesisId readStr_follows fun _ => rfl
  · exact value_follows .genesisHash (readFixed_follows 32) fun _ => rfl
  · exact value_follows .lastValid readUInt_follows fun _ => rfl
  · exact value_follows .note readBin_follows fun _ => rfl
  · exact value_follows .receiver (readFixed_follows 32) fun _ => rfl
  · exact value_follows .sender (readFixed_follows 32) fun _ => rfl
  · exact value_follows .type readStr_follows fun _ => rfl
  · refine (Follows.throw _).congr fun next piece => ⟨False.elim, ?_⟩
    intro stands
    obtain ⟨⟨field, value⟩, rfl, _⟩ := stands
    cases field <;> contradiction

/-- The draft after all entries of a map holds the payment that they make. -/
private theorem foldl_set (entries : List Entry) :
    entries.foldl Draft.set ⟨blank, none⟩ = ⟨ofEntries entries, lastOf .type entries⟩ := by
  induction entries using List.reverseRecOn with
  | nil => rfl
  | append_singleton entries entry ih =>
    -- The entry at the end decides on its own field and leaves the others as they are.
    have last (field : Field) : lastOf field (entries ++ [entry]) =
        (entry.value? field).or (lastOf field entries) := by
      rw [lastOf, lastGiven_append, lastGiven_singleton]
      rfl
    rw [List.foldl_append, ih]
    obtain ⟨field, value⟩ := entry
    cases field with
    | type =>
      simp only [ofEntries, last, Entry.value?_self]
      simp [Entry.value?_of_ne]
      rfl
    | _ => simp [Draft.set, ofEntries, last, Entry.value?_self, Entry.value?_of_ne]

private theorem typed_follows (draft : Draft) :
    Follows (match draft.type? with
      | none => throw (.transaction .missingType)
      | some type =>
        if type = paymentType then pure draft.transaction
        else throw (.transaction (.unsupportedType type)) : Decoder Transaction)
      (fun transaction piece => draft.type? = some paymentType ∧
        transaction = draft.transaction ∧ piece = []) := by
  cases draft.type? with
  | none => exact (Follows.throw _).congr fun _ _ => ⟨False.elim, fun stands => by cases stands.1⟩
  | some type =>
    by_cases payment : type = paymentType
    · subst payment
      simp only [if_true]
      exact (Follows.pure _).congr fun _ _ => (iff_of_eq (true_and _)).symm
    · simp only [payment, if_false]
      refine (Follows.throw _).congr fun _ _ => ⟨False.elim, fun stands => ?_⟩
      exact payment (Option.some.inj stands.1)

theorem decoder_follows : Follows decoder form := by
  refine ((Decoder.read_follows readMap_follows).bind fun count =>
    (Decoder.repeated_follows readEntry_follows count ⟨blank, none⟩).bind typed_follows).congr
      fun transaction piece => ?_
  constructor
  · intro stands
    obtain ⟨_, header, _, counted, ⟨_, body, _, drafted, ⟨payment, rfl, rfl⟩, rfl⟩, rfl⟩ := stands
    obtain ⟨entries, rfl, each, rfl⟩ := drafted
    rw [foldl_set] at payment ⊢
    exact ⟨entries, header, body, counted, each, by simp, payment, rfl⟩
  · intro stands
    obtain ⟨entries, header, body, counted, each, rfl, payment, rfl⟩ := stands
    refine ⟨_, header, body, counted, ⟨_, body, [], ⟨entries, rfl, each, rfl⟩, ?_, by simp⟩, rfl⟩
    rw [foldl_set]
    exact ⟨payment, rfl, rfl⟩

theorem decode_eq_ok_iff {bytes : Bytes} {transaction : Transaction} :
    decode bytes = .ok transaction ↔ transaction.form bytes :=
  Decoder.decode_whole decoder_follows .transaction

end Transaction

/-! ## Signed payments -/

namespace SignedTransaction

def Draft.set (draft : Draft) : Entry → Draft
  | .sig signature => { draft with signature? := some signature }
  | .txn transaction => { draft with transaction? := some transaction }

/-- What stands behind a name in an entry, and what an entry with it makes of a draft. -/
private def behindKey (draft : Draft) (name : String) : Form Draft := fun next piece =>
  (∃ signature, name = "sig" ∧ FixedForm 64 signature piece ∧ next = draft.set (.sig signature)) ∨
    ∃ transaction, name = "txn" ∧ transaction.form piece ∧ next = draft.set (.txn transaction)

private theorem signedEntry_follows (draft : Draft) : Follows (readEntry draft)
    (fun next piece => ∃ entry, EntryForm entry piece ∧ next = draft.set entry) := by
  unfold readEntry
  refine ((Decoder.read_follows readStr_follows).bind fun name =>
    (?_ : Follows _ (behindKey draft name))).congr fun next piece => ?_
  · split
    · refine ((Decoder.read_follows (readFixed_follows 64)).map _).congr fun next piece => ?_
      simp [behindKey, Draft.set]
    · refine (Transaction.decoder_follows.map _).congr fun next piece => ?_
      simp [behindKey, Draft.set]
    · rename_i name notSig notTxn
      refine (Follows.throw _).congr fun next piece => ⟨False.elim, fun stands => ?_⟩
      rcases stands with ⟨_, same, _⟩ | ⟨_, same, _⟩
      · exact notSig same
      · exact notTxn same
  · constructor
    · intro stands
      obtain ⟨name, key, value, named, ⟨_, rfl, stands, rfl⟩ | ⟨_, rfl, stands, rfl⟩, rfl⟩ := stands
      · exact ⟨_, .sig named stands, rfl⟩
      · exact ⟨_, .txn named stands, rfl⟩
    · intro stands
      obtain ⟨entry, stands, rfl⟩ := stands
      cases stands with
      | sig named value => exact ⟨_, _, _, named, .inl ⟨_, rfl, value, rfl⟩, rfl⟩
      | txn named value => exact ⟨_, _, _, named, .inr ⟨_, rfl, value, rfl⟩, rfl⟩

private theorem signedFoldl_set (entries : List Entry) :
    entries.foldl Draft.set ⟨none, none⟩ =
      ⟨lastGiven Entry.transaction? entries, lastGiven Entry.signature? entries⟩ := by
  have transaction := get_foldl_eq_lastGiven Draft.set Draft.transaction? Entry.transaction?
    (fun draft entry => by cases entry <;> rfl) entries ⟨none, none⟩
  have signature := get_foldl_eq_lastGiven Draft.set Draft.signature? Entry.signature?
    (fun draft entry => by cases entry <;> rfl) entries ⟨none, none⟩
  rw [Option.or_none] at transaction signature
  rw [← transaction, ← signature]

/-- What is read before the two entries are asked for. -/
def drafts : Decoder Draft := do readEntries (← .read readMap) ⟨none, none⟩

/-- A map of so many entries, and what the last ones of each name give. -/
def DraftForm : Form Draft := fun draft piece => ∃ entries header body,
  MapHeader entries.length header ∧ Form.Each EntryForm entries body ∧ piece = header ++ body ∧
    draft = ⟨lastGiven Entry.transaction? entries, lastGiven Entry.signature? entries⟩

theorem drafts_follows : Follows drafts DraftForm := by
  refine (Decoder.map_follows signedEntry_follows
    ⟨none, none⟩).congr fun draft piece => ?_
  simp only [signedFoldl_set, DraftForm]

/-- A draft that has both entries. -/
def complete (draft : Draft) : Except Error SignedTransaction :=
  match draft.transaction?, draft.signature? with
  | some transaction, some signature => return ⟨transaction, signature⟩
  | none, _ => throw (.transaction .missingTransaction)
  | some _, none => throw (.transaction .missingSignature)

private theorem complete_eq_ok_iff {draft : Draft} {signed : SignedTransaction} :
    complete draft = .ok signed ↔
      draft.transaction? = some signed.transaction ∧ draft.signature? = some signed.signature := by
  obtain ⟨transaction?, signature?⟩ := draft
  obtain ⟨transaction, signature⟩ := signed
  cases transaction? <;> cases signature? <;> simp [complete, pure, Except.pure, throw, throwThe,
    MonadExceptOf.throw]

theorem decode_eq (bytes : Bytes) :
    decode bytes = (Decoder.whole drafts .signedTransaction).decode bytes >>= complete := rfl

theorem decode_eq_ok_iff {bytes : Bytes} {signed : SignedTransaction} :
    decode bytes = .ok signed ↔ form signed bytes := by
  rw [decode_eq, Decoder.decode_whole_bind drafts_follows]
  constructor
  · intro given
    obtain ⟨_, ⟨entries, header, body, counted, each, rfl, rfl⟩, both⟩ := given
    obtain ⟨transaction, signature⟩ := complete_eq_ok_iff.mp both
    exact ⟨entries, header, body, counted, each, rfl, transaction, signature⟩
  · intro stands
    obtain ⟨entries, header, body, counted, each, rfl, transaction, signature⟩ := stands
    exact ⟨_, ⟨entries, header, body, counted, each, rfl, rfl⟩,
      complete_eq_ok_iff.mpr ⟨transaction, signature⟩⟩

end SignedTransaction

/-- Each decoder accepts exactly the records of its grammar, and gives the value that the last entry
of each name makes. -/
theorem decoders_accept_grammar :
    (∀ bytes transaction, Transaction.decode bytes = .ok transaction ↔
      Transaction.form transaction bytes) ∧
    ∀ bytes signed, SignedTransaction.decode bytes = .ok signed ↔
      SignedTransaction.form signed bytes :=
  ⟨fun _ _ => Transaction.decode_eq_ok_iff, fun _ _ => SignedTransaction.decode_eq_ok_iff⟩

end WalletTools.Ledger
