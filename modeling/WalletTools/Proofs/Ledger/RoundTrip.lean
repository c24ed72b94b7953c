import WalletTools.Proofs.Ledger.Grammar

/-! The bytes of a payment are a piece of its form, so that they are read back as that payment, also
where other bytes follow them. -/
namespace WalletTools.Ledger

open MessagePack

namespace Transaction

/-- The lengths that a payment writes fit the widest headers. -/
structure Fits (transaction : Transaction) : Prop where
  genesisId : (Text.Utf8.encode transaction.genesisId).length < 2 ^ 32
  note : transaction.note.length < 2 ^ 32

namespace Field

/-- Every field, in the order of the names. -/
def all : List Field :=
  [.amount, .fee, .firstValid, .genesisId, .genesisHash, .lastValid, .note, .receiver, .sender, .type]

theorem mem_all (field : Field) : field ∈ all := by cases field <;> decide

/-- Whether the length of a value fits the widest header. -/
def Fits : (field : Field) → field.Value → Prop
  | .genesisId, text | .type, text => (Text.Utf8.encode text).length < 2 ^ 32
  | .note, content => List.length content < 2 ^ 32
  | .amount, _ | .fee, _ | .firstValid, _ | .lastValid, _ => True
  | .genesisHash, _ | .receiver, _ | .sender, _ => True

theorem blank_fits (field : Field) : field.Fits field.blank := by
  cases field with
  | genesisId | type => exact show (Text.Utf8.encode "").length < 2 ^ 32 by decide
  | note => exact show ([] : Bytes).length < 2 ^ 32 by decide
  | _ => trivial

def write : (field : Field) → field.Value → Bytes
  | .amount | .fee | .firstValid | .lastValid => writeUInt
  | .genesisId | .type => writeStr
  | .note => writeBin
  | .genesisHash | .receiver | .sender => fun key => writeBin key.toList

theorem write_form {field : Field} {value : field.Value} (fits : field.Fits value) :
    field.form value (field.write value) := by
  have key (key : FixedBytes 32) : FixedForm 32 key (writeBin key.toList) :=
    writeBin_form (by rw [key.length_toList]; decide)
  cases field with
  | amount => exact writeUInt_form value
  | fee => exact writeUInt_form value
  | firstValid => exact writeUInt_form value
  | lastValid => exact writeUInt_form value
  | genesisId => exact writeStr_form fits
  | type => exact writeStr_form fits
  | note => exact writeBin_form fits
  | genesisHash => exact key value
  | receiver => exact key value
  | sender => exact key value

end Field

theorem Entry.form_fits {entry : Entry} {piece : Bytes} (stands : entry.form piece) :
    entry.field.Fits entry.value := by
  obtain ⟨field, value⟩ := entry
  obtain ⟨_, _, _, stands, _⟩ := stands
  cases field with
  | genesisId | type => exact stands.choose_spec.1.lt
  | note => exact stands.choose_spec.1.lt
  | _ => trivial

theorem Fits.value {transaction : Transaction} (fits : transaction.Fits) (field : Field) :
    field.Fits (transaction.value field) := by
  cases field with
  | genesisId => exact fits.genesisId
  | note => exact fits.note
  | type => exact show (Text.Utf8.encode paymentType).length < 2 ^ 32 by decide
  | _ => trivial

/-- What a payment writes of a field: one entry, unless the field is left out. -/
def entryOf (transaction : Transaction) (field : Field) : List Entry :=
  if transaction.value field = field.blank then [] else [⟨field, transaction.value field⟩]

/-- The entries that a payment writes, in their order. -/
def written (transaction : Transaction) : List Entry := Field.all.flatMap transaction.entryOf

theorem type_present (transaction : Transaction) :
    transaction.value .type ≠ Field.type.blank := show paymentType ≠ "" by decide

theorem mem_written {transaction : Transaction} {field : Field} {value : field.Value} :
    ⟨field, value⟩ ∈ transaction.written ↔
      value = transaction.value field ∧ transaction.value field ≠ field.blank := by
  constructor
  · intro member
    obtain ⟨other, _, member⟩ := List.mem_flatMap.mp member
    unfold entryOf at member
    split at member
    · cases member
    · rename_i present
      cases List.mem_singleton.mp member
      exact ⟨rfl, present⟩
  · intro given
    obtain ⟨rfl, present⟩ := given
    refine List.mem_flatMap.mpr ⟨field, Field.mem_all field, ?_⟩
    rw [entryOf, if_neg present]
    exact List.mem_singleton.mpr rfl

/-- Every field is written at most once, and the fields are written in the order of their names. -/
theorem fields_written (transaction : Transaction) :
    (transaction.written.map Entry.field).Sublist Field.all := by
  unfold written
  induction Field.all with
  | nil => exact List.Sublist.slnil
  | cons field fields ih =>
    rw [List.flatMap_cons, List.map_append, entryOf]
    split
    · exact ih.cons field
    · exact ih.cons_cons field

theorem length_written (transaction : Transaction) : transaction.written.length ≤ 10 := by
  rw [← List.length_map Entry.field]
  exact transaction.fields_written.length_le

/-! ## Entries as they are written -/

namespace Entry

def pair (entry : Entry) : String × Bytes := (entry.field.name, entry.field.write entry.value)

def bytes (entry : Entry) : Bytes := writeStr entry.field.name ++ entry.field.write entry.value

theorem bytes_form {entry : Entry} (fits : entry.field.Fits entry.value) : entry.form entry.bytes := by
  refine ⟨_, _, writeStr_form ?_, entry.field.write_form fits, rfl⟩
  cases entry.field <;> decide

end Entry

private theorem pair_entryOf (transaction : Transaction) (field : Field) {omitted : Prop}
    {decision : Decidable omitted} (same : omitted ↔ transaction.value field = field.blank) :
    (if omitted then [] else [(field.name, field.write (transaction.value field))]) =
      (transaction.entryOf field).map Entry.pair := by
  unfold entryOf
  by_cases left : transaction.value field = field.blank
  · rw [if_pos left, if_pos (same.mpr left)]
    rfl
  · rw [if_neg left, if_neg (mt same.mp left)]
    rfl

theorem entries_eq (transaction : Transaction) :
    transaction.entries = transaction.written.map Entry.pair := by
  have amount : numberEntry "amt" transaction.amount = _ := pair_entryOf transaction .amount Iff.rfl
  have fee : numberEntry "fee" transaction.fee = _ := pair_entryOf transaction .fee Iff.rfl
  have firstValid : numberEntry "fv" transaction.firstValid = _ :=
    pair_entryOf transaction .firstValid Iff.rfl
  have genesisId : textEntry "gen" transaction.genesisId = _ :=
    pair_entryOf transaction .genesisId Iff.rfl
  have genesisHash : keyEntry "gh" transaction.genesisHash = _ :=
    pair_entryOf transaction .genesisHash FixedBytes.isZero_iff
  have lastValid : numberEntry "lv" transaction.lastValid = _ :=
    pair_entryOf transaction .lastValid Iff.rfl
  have note : bytesEntry "note" transaction.note = _ := pair_entryOf transaction .note Iff.rfl
  have receiver : keyEntry "rcv" transaction.receiver.publicKey = _ :=
    pair_entryOf transaction .receiver FixedBytes.isZero_iff
  have sender : keyEntry "snd" transaction.sender.publicKey = _ :=
    pair_entryOf transaction .sender FixedBytes.isZero_iff
  have type : [("type", writeStr paymentType)] = (transaction.entryOf .type).map Entry.pair := by
    rw [entryOf, if_neg (type_present transaction)]
    rfl
  rw [entries, amount, fee, firstValid, genesisId, genesisHash, lastValid, note, receiver, sender, type]
  simp [written, Field.all]

private theorem length_leaving_out {omitted : Prop} [Decidable omitted] (entry : String × Bytes) :
    (if omitted then [] else [entry]).length = [!decide omitted].count true := by
  by_cases left : omitted <;> simp [left]

/-- The fields that are counted as present are those that are written. -/
theorem entryCount_eq_length (transaction : Transaction) :
    transaction.entryCount = transaction.entries.length := by
  have split (first second : Bool) (rest : List Bool) :
      (first :: second :: rest).count true = [first].count true + (second :: rest).count true := by
    rw [← List.count_append, List.singleton_append]
  unfold entryCount presence entries numberEntry textEntry keyEntry bytesEntry
  simp only [List.length_append, length_leaving_out, decide_not, split, Nat.add_assoc, Bool.decide_eq_true]
  rfl

theorem encode_eq (transaction : Transaction) : transaction.encode =
    writeMap transaction.written.length ++ transaction.written.flatMap Entry.bytes := by
  rw [encode, entryCount_eq_length, entries_eq, List.length_map, List.flatMap_map]
  rfl

/-! ## Reading back -/

theorem lastOf_written (transaction : Transaction) (field : Field) :
    (lastOf field transaction.written).getD field.blank = transaction.value field := by
  cases given : lastOf field transaction.written with
  | none =>
    by_cases left : transaction.value field = field.blank
    · exact left.symm
    · obtain ⟨value, found⟩ := lastOf_isSome (mem_written.mpr ⟨rfl, left⟩)
      cases given.symm.trans found
  | some value => exact (mem_written.mp (mem_of_lastOf given)).1

theorem lastOf_type_written (transaction : Transaction) :
    lastOf .type transaction.written = some paymentType := by
  have named : (⟨.type, paymentType⟩ : Entry) ∈ transaction.written :=
    mem_written.mpr ⟨rfl, transaction.type_present⟩
  obtain ⟨value, given⟩ := lastOf_isSome named
  rw [given]
  exact congrArg some (mem_written.mp (mem_of_lastOf given)).1

theorem ofEntries_written (transaction : Transaction) : ofEntries transaction.written = transaction := by
  apply ext_value
  intro field
  rw [value_ofEntries transaction.lastOf_type_written, lastOf_written]

theorem encode_form {transaction : Transaction} (fits : transaction.Fits) :
    transaction.form transaction.encode := by
  refine ⟨transaction.written, _, _, writeMap_header ?_, .flatMap ?_, transaction.encode_eq,
    transaction.lastOf_type_written, transaction.ofEntries_written.symm⟩
  · exact Nat.lt_of_le_of_lt transaction.length_written (by decide)
  · intro entry member
    obtain ⟨field, value⟩ := entry
    obtain ⟨rfl, _⟩ := mem_written.mp member
    exact Entry.bytes_form (fits.value field)

end Transaction

namespace SignedTransaction

def Entry.bytes : Entry → Bytes
  | .sig signature => writeStr "sig" ++ writeBin signature.toList
  | .txn transaction => writeStr "txn" ++ transaction.encode

theorem encode_eq_bytes (signed : SignedTransaction) : signed.encode = writeMap 2 ++
    ((Entry.sig signed.signature).bytes ++ (Entry.txn signed.transaction).bytes) := by
  rw [encode, Entry.bytes, Entry.bytes, List.append_assoc]

theorem encode_form {signed : SignedTransaction} (fits : signed.transaction.Fits) :
    signed.form signed.encode := by
  have signature : EntryForm (.sig signed.signature) (Entry.sig signed.signature).bytes :=
    .sig (writeStr_form (by decide)) (writeBin_form (by rw [signed.signature.length_toList]; decide))
  have transaction : EntryForm (.txn signed.transaction) (Entry.txn signed.transaction).bytes :=
    .txn (writeStr_form (by decide)) (Transaction.encode_form fits)
  exact ⟨[.sig signed.signature, .txn signed.transaction], writeMap 2, _,
    writeMap_header (show 2 < 2 ^ 32 by decide), .pair signature transaction, signed.encode_eq_bytes, rfl, rfl⟩

end SignedTransaction

/-- What is written is read back, whatever follows it, alone and within a signed payment. -/
theorem decode_written {transaction : Transaction} (fits : transaction.Fits) :
    (∀ rest, outcome Transaction.decoder (transaction.encode ++ rest) = (.ok transaction, rest)) ∧
    Transaction.decode transaction.encode = .ok transaction ∧
    ∀ signature, SignedTransaction.decode (SignedTransaction.encode ⟨transaction, signature⟩) =
      .ok ⟨transaction, signature⟩ := by
  refine ⟨?_, ?_, ?_⟩
  · intro rest
    exact Transaction.decoder_follows.complete (Transaction.encode_form fits) rest
  · exact Transaction.decode_eq_ok_iff.mpr (Transaction.encode_form fits)
  · intro signature
    exact SignedTransaction.decode_eq_ok_iff.mpr (SignedTransaction.encode_form fits)

/-- A payment on a test network, with a note and without a fee. -/
private def testPayment : Transaction :=
  { Transaction.blank with
    sender := ⟨⟨List.replicate 32 7, by decide⟩⟩
    amount := 5000000
    firstValid := 65536
    genesisId := "testnet-v1.0"
    note := [0x68, 0x69] }

theorem decode_written_testPayment : testPayment.Fits ∧
    Transaction.decode testPayment.encode = .ok testPayment :=
  have fits : testPayment.Fits := ⟨by decide, by decide⟩
  ⟨fits, (decode_written fits).2.1⟩

end WalletTools.Ledger
