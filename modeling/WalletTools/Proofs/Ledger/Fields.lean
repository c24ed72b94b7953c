import WalletTools.Ledger.Transaction
import WalletTools.Proofs.MessagePack.Shortest

/-! The fields of a payment, each with the type of its values, and the payment that the entries of a
map make: of the entries that name a field the last one counts. -/
namespace WalletTools.Ledger.Transaction

open MessagePack

/-- What the entries of a payment's map can name, in the order of their names. -/
inductive Field
  | amount
  | fee
  | firstValid
  | genesisId
  | genesisHash
  | lastValid
  | note
  | receiver
  | sender
  | type
deriving DecidableEq

namespace Field

def name : Field → String
  | .amount => "amt"
  | .fee => "fee"
  | .firstValid => "fv"
  | .genesisId => "gen"
  | .genesisHash => "gh"
  | .lastValid => "lv"
  | .note => "note"
  | .receiver => "rcv"
  | .sender => "snd"
  | .type => "type"

def Value : Field → Type
  | .amount | .fee | .firstValid | .lastValid => UInt64
  | .genesisId | .type => String
  | .note => Bytes
  | .genesisHash | .receiver | .sender => FixedBytes 32

instance : (field : Field) → DecidableEq field.Value
  | .amount | .fee | .firstValid | .lastValid => inferInstanceAs (DecidableEq UInt64)
  | .genesisId | .type => inferInstanceAs (DecidableEq String)
  | .note => inferInstanceAs (DecidableEq Bytes)
  | .genesisHash | .receiver | .sender => inferInstanceAs (DecidableEq (FixedBytes 32))

/-- The value of a field that no entry names. -/
def blank : (field : Field) → field.Value
  | .amount | .fee | .firstValid | .lastValid => (0 : UInt64)
  | .genesisId | .type => ""
  | .note => ([] : Bytes)
  | .genesisHash | .receiver | .sender => FixedBytes.zero 32

/-- The pieces of bytes that may hold a field's value. -/
def form : (field : Field) → Form field.Value
  | .amount | .fee | .firstValid | .lastValid => UIntForm
  | .genesisId | .type => StrForm
  | .note => BinForm
  | .genesisHash | .receiver | .sender => FixedForm 32

theorem name_injective {left right : Field} (same : left.name = right.name) : left = right := by
  cases left <;> cases right <;> first | rfl | exact absurd same (by decide)

end Field

/-- An entry of a payment's map. -/
structure Entry where
  field : Field
  value : field.Value
deriving DecidableEq

namespace Entry

/-- The value that an entry gives to a field, if it names that field. -/
def value? (field : Field) (entry : Entry) : Option field.Value :=
  if same : entry.field = field then some (same ▸ entry.value) else none

theorem value?_self (field : Field) (value : field.Value) : value? field ⟨field, value⟩ = some value := by
  simp [value?]

theorem value?_of_ne {field other : Field} (different : other ≠ field) (value : other.Value) :
    value? field ⟨other, value⟩ = none := by
  simp [value?, different]

theorem value?_eq_some_iff {field : Field} {entry : Entry} {value : field.Value} :
    entry.value? field = some value ↔ entry = ⟨field, value⟩ := by
  obtain ⟨other, given⟩ := entry
  by_cases same : other = field
  · subst other
    simp [value?_self]
  · simp [value?_of_ne same, same]

/-- A name in any width, and behind it a value of the field. -/
def form : Form Entry := fun entry piece =>
  ∃ key value, StrForm entry.field.name key ∧ entry.field.form entry.value value ∧ piece = key ++ value

end Entry

/-- The last value that entries give to a field. -/
def lastOf (field : Field) (entries : List Entry) : Option field.Value :=
  lastGiven (Entry.value? field) entries

theorem mem_of_lastOf {field : Field} {value : field.Value} {entries : List Entry}
    (given : lastOf field entries = some value) : ⟨field, value⟩ ∈ entries := by
  obtain ⟨entry, member, found⟩ := mem_of_lastGiven given
  rwa [Entry.value?_eq_some_iff.mp found] at member

theorem lastOf_isSome {entry : Entry} {entries : List Entry} (member : entry ∈ entries) :
    ∃ value, lastOf entry.field entries = some value := by
  have given : entry.value ∈ entries.filterMap (Entry.value? entry.field) :=
    List.mem_filterMap.mpr ⟨entry, member, Entry.value?_self _ _⟩
  exact ⟨_, List.getLast?_eq_some_getLast (List.ne_nil_of_mem given)⟩

/-- The payment that entries make. -/
def ofEntries (entries : List Entry) : Transaction :=
  let last (field : Field) := (lastOf field entries).getD field.blank
  { amount := last .amount
    fee := last .fee
    firstValid := last .firstValid
    genesisId := last .genesisId
    genesisHash := last .genesisHash
    lastValid := last .lastValid
    note := last .note
    receiver := ⟨last .receiver⟩
    sender := ⟨last .sender⟩ }

/-- What a payment's map says of a field. -/
def value (transaction : Transaction) : (field : Field) → field.Value
  | .amount => transaction.amount
  | .fee => transaction.fee
  | .firstValid => transaction.firstValid
  | .genesisId => transaction.genesisId
  | .genesisHash => transaction.genesisHash
  | .lastValid => transaction.lastValid
  | .note => transaction.note
  | .receiver => transaction.receiver.publicKey
  | .sender => transaction.sender.publicKey
  | .type => paymentType

theorem value_ofEntries {entries : List Entry} (payment : lastOf .type entries = some paymentType)
    (field : Field) : (ofEntries entries).value field = (lastOf field entries).getD field.blank := by
  cases field with
  | type => rw [payment]; rfl
  | _ => rfl

theorem ext_value {left right : Transaction} (same : ∀ field, left.value field = right.value field) :
    left = right := by
  obtain ⟨⟨_⟩, ⟨_⟩, _, _, _, _, _, _, _⟩ := left
  obtain ⟨⟨_⟩, ⟨_⟩, _, _, _, _, _, _, _⟩ := right
  cases same .sender; cases same .receiver; cases same .amount; cases same .fee; cases same .firstValid
  cases same .lastValid; cases same .genesisId; cases same .genesisHash; cases same .note
  rfl

end WalletTools.Ledger.Transaction
