import WalletTools.Node.Records
import WalletTools.Proofs.Json.Written

/-! The records of a node's answers. Each is read back from what it is written as, and from any other
object that holds its members; one that lacks a member or repeats it is refused. -/
namespace WalletTools.Node

open Json

/-- A member that a record is written as. -/
structure Member where
  name : String
  value : Json
  /-- Whether the member may be missing where its value is empty or zero. -/
  optional : Bool

/-- The values of members of an object hold the value of a member: it is written by the only one, or
there is none and it can be left out. -/
inductive Member.Held (member : Member) : List (List Char) → Prop
  | written (value : ScalarText .kept member.value piece) : member.Held [piece]
  | missing (optional : member.optional = true)
      (empty : member.value = .text "" ∨ member.value = .number (.integer 0)) : member.Held []

/-- A count as JSON. -/
def count (value : UInt64) : Json := .number (.integer value.toNat)

def Status.members (status : Status) : List Member := [
  ⟨"last-round", count status.lastRound, false⟩,
  ⟨"last-version", .text status.lastVersion, true⟩,
  ⟨"time-since-last-round", count status.timeSinceLastRound, true⟩]

def AccountInformation.members (account : AccountInformation) : List Member := [
  ⟨"address", .text account.address, false⟩,
  ⟨"amount", count account.amount, false⟩,
  ⟨"amount-without-pending-rewards", count account.amountWithoutPendingRewards, true⟩,
  ⟨"status", .text account.status, true⟩]

def TransactionParams.members (params : TransactionParams) : List Member := [
  ⟨"consensus-version", .text params.consensusVersion, false⟩,
  ⟨"fee", count params.fee, false⟩,
  ⟨"genesis-hash", .text params.genesisHash, false⟩,
  ⟨"genesis-id", .text params.genesisId, false⟩,
  ⟨"last-round", count params.lastRound, false⟩,
  ⟨"min-fee", count params.minFee, true⟩]

def Posted.members (posted : Posted) : List Member := [⟨"txId", .text posted.id, false⟩]

/-- The records that a node's answers are read as. -/
inductive Record
  | status
  | account
  | params
  | posted
deriving DecidableEq, Repr

namespace Record

abbrev Value : Record → Type
  | .status => Status
  | .account => AccountInformation
  | .params => TransactionParams
  | .posted => Posted

def shape : (record : Record) → Shape record.Value
  | .status => Status.shape
  | .account => AccountInformation.shape
  | .params => TransactionParams.shape
  | .posted => Posted.shape

/-- The members that a record is written as. -/
def members : (record : Record) → record.Value → List Member
  | .status => Status.members
  | .account => AccountInformation.members
  | .params => TransactionParams.members
  | .posted => Posted.members

end Record

section

variable {name : String} {pieces : List (List Char)}

/-- A field as a member: what stands for it where it is missing is empty or zero. -/
theorem holds_iff_held (field : Field) {optional : Bool} {value : field.kind.Value}
    (fallback : field.default? = some value ↔ optional = true ∧
      (field.kind.json value = .text "" ∨ field.kind.json value = .number (.integer 0))) :
    field.Holds value pieces ↔ Member.Held ⟨field.name, field.kind.json value, optional⟩ pieces := by
  constructor
  · intro holds
    cases holds with
    | given written => exact .written written
    | missing same =>
      obtain ⟨left, empty⟩ := fallback.mp same
      exact .missing left empty
  · intro held
    cases held with
    | written written => exact .given written
    | missing left empty => exact .missing (fallback.mpr ⟨left, empty⟩)

theorem required_holds_iff {kind : Kind} {value : kind.Value} : (required name kind).Holds value pieces ↔
    Member.Held ⟨name, kind.json value, false⟩ pieces :=
  holds_iff_held (required name kind) ⟨nofun, fun given => absurd given.1 (by decide)⟩

theorem optionalText_holds_iff {value : String} : (optionalText name).Holds value pieces ↔
    Member.Held ⟨name, .text value, true⟩ pieces := by
  refine holds_iff_held (optionalText name) ?_
  simp [optionalText, Kind.json, eq_comm]

theorem optionalCount_holds_iff {value : UInt64} : (optionalCount name).Holds value pieces ↔
    Member.Held ⟨name, count value, true⟩ pieces := by
  refine holds_iff_held (optionalCount name) ?_
  have zero : value = 0 ↔ (value.toNat : Int) = 0 := by
    rw [← UInt64.toNat_inj]
    exact Int.natCast_eq_zero.symm
  change some 0 = some value ↔
    true = true ∧ (count value = .text "" ∨ count value = .number (.integer 0))
  rw [Option.some.injEq, eq_comm, zero]
  simp [count]

end

section

variable {pieces : List (String × List Char)}

theorem holds_cons_iff {field : Field} {fields : List Field} {value : field.kind.Value} {row : Row fields}
    {member : Member} {others : List Member}
    (first : field.Holds value (piecesOf field.name pieces) ↔ member.Held (piecesOf member.name pieces))
    (later : Holds fields row pieces ↔ ∀ other ∈ others, other.Held (piecesOf other.name pieces)) :
    Holds (field :: fields) (value, row) pieces ↔
      ∀ other ∈ member :: others, other.Held (piecesOf other.name pieces) := by
  rw [List.forall_mem_cons]
  exact and_congr first later

theorem holds_nil_iff : Holds [] () pieces ↔
    ∀ other ∈ ([] : List Member), other.Held (piecesOf other.name pieces) :=
  iff_of_true trivial nofun

namespace Record

variable {record : Record}

theorem distinct_fields (record : Record) : (record.shape.fields.map (·.name)).Nodup := by
  cases record <;> decide

theorem eq_build_iff {row : Row record.shape.fields} {value : record.Value} :
    value = record.shape.build row ↔ row = record.shape.parts value := by
  constructor
  · rintro rfl
    cases record <;> rfl
  · rintro rfl
    cases record <;> rfl

theorem holds_parts_iff {value : record.Value} : Holds record.shape.fields (record.shape.parts value) pieces ↔
    ∀ member ∈ record.members value, member.Held (piecesOf member.name pieces) := by
  cases record with
  | status =>
    exact holds_cons_iff required_holds_iff <| holds_cons_iff optionalText_holds_iff <|
      holds_cons_iff optionalCount_holds_iff holds_nil_iff
  | account =>
    exact holds_cons_iff required_holds_iff <| holds_cons_iff required_holds_iff <|
      holds_cons_iff optionalCount_holds_iff <| holds_cons_iff optionalText_holds_iff holds_nil_iff
  | params =>
    exact holds_cons_iff required_holds_iff <| holds_cons_iff required_holds_iff <|
      holds_cons_iff required_holds_iff <| holds_cons_iff required_holds_iff <|
      holds_cons_iff required_holds_iff <| holds_cons_iff optionalCount_holds_iff holds_nil_iff
  | posted => exact holds_cons_iff required_holds_iff holds_nil_iff

/-- An object is read as a record if it holds the record's members. -/
theorem parse_eq_ok_iff {text : String} {value : record.Value} (object : ObjectText pieces text) :
    record.shape.parse text = .ok value ↔
      ∀ member ∈ record.members value, member.Held (piecesOf member.name pieces) := by
  rw [Shape.parse_eq_ok_iff record.distinct_fields object, ← holds_parts_iff]
  simp only [eq_build_iff, exists_eq_right]

/-- The members of a record have the same names and the same may be missing, whatever its value is. -/
theorem exists_member {value : record.Value} (other : record.Value) {member : Member}
    (known : member ∈ record.members value) : ∃ same ∈ record.members other,
      same.name = member.name ∧ same.optional = member.optional := by
  have same : (record.members value).map (fun member => (member.name, member.optional)) =
      (record.members other).map fun member => (member.name, member.optional) := by
    cases record <;> rfl
  have listed := List.mem_map_of_mem (f := fun member : Member => (member.name, member.optional)) known
  rw [same] at listed
  obtain ⟨found, listed, named⟩ := List.mem_map.mp listed
  obtain ⟨name, optional⟩ := Prod.mk.inj named
  exact ⟨found, listed, name, optional⟩

/-- A record is read back from its own text and from just those objects that hold its members: each once
and with its value, unless it may be missing and is empty or zero. An object that lacks another member
or repeats one is refused. -/
theorem reads_back (record : Record) (value : record.Value) {text : String}
    (object : ObjectText pieces text) :
    record.shape.parse (record.shape.compact value) = .ok value ∧
    (record.shape.parse text = .ok value ↔
      ∀ member ∈ record.members value, member.Held (piecesOf member.name pieces)) ∧
    ∀ member ∈ record.members value,
      piecesOf member.name pieces = [] ∧ member.optional = false ∨
        1 < (piecesOf member.name pieces).length → ∃ fault, record.shape.parse text = .error fault := by
  refine ⟨?_, parse_eq_ok_iff object, ?_⟩
  · rw [Shape.parse_compact record.distinct_fields]
    exact congrArg Except.ok (eq_build_iff.mpr rfl).symm
  · intro member known wrong
    cases read : record.shape.parse text with
    | error fault => exact ⟨fault, rfl⟩
    | ok other =>
      obtain ⟨same, listed, name, optional⟩ := exists_member other known
      have held := (parse_eq_ok_iff object).mp read same listed
      rw [name] at held
      generalize piecesOf member.name pieces = given at held wrong
      cases held with
      | written _ => exact absurd wrong (by simp)
      | missing left _ => exact absurd wrong (by simp [← optional, left])

/-- A status of its round alone, behind a member that no status has. -/
theorem reads_back_sparse_status :
    ObjectText [("peers", ['[', '1', ']']), ("last-round", ['5'])]
      "\x7b\"peers\":[1],\"last-round\":5\x7d" ∧
    Status.shape.parse "\x7b\"peers\":[1],\"last-round\":5\x7d" = .ok ⟨5, "", 0⟩ := by
  have one : WellFormed ['1'] := (scalarText_count 1).passed
  have round : ScalarText .kept (count 5) ['5'] := scalarText_count 5
  have element : Padded Verbatim ['1'] ['1'] := .bare (.mk one)
  have peers : WellFormed ['[', '1', ']'] := wellFormed_array (.filled (.last element))
  have object := objectText_enclose [("peers", ['[', '1', ']']), ("last-round", ['5'])]
    (List.forall_mem_cons.mpr ⟨peers, List.forall_mem_cons.mpr ⟨round.passed, nofun⟩⟩)
  refine ⟨object, (reads_back .status ⟨5, "", 0⟩ object).2.1.mpr ?_⟩
  refine List.forall_mem_cons.mpr ⟨.written round, List.forall_mem_cons.mpr ⟨?_, ?_⟩⟩
  · exact .missing rfl (.inl rfl)
  · exact List.forall_mem_cons.mpr ⟨.missing rfl (.inr rfl), nofun⟩

end Record

end

end WalletTools.Node
