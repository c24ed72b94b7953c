import WalletTools.Proofs.Ledger.RootKey
import WalletTools.Proofs.MessagePack.Calls

/-! The reader as a cursor. A call that succeeds takes a piece from the front of the bytes, its value hangs
on this piece alone, and what follows is left as it is. What is read on a copy of the reader moves nothing. -/
namespace WalletTools

namespace MessagePack

/-- A call of the reader: the piece that it takes and the value that it gives. -/
structure Taken where
  kind : Kind
  piece : Bytes
  value : Value
deriving DecidableEq, Repr

/-- Calls that succeed one after the other, each where the one before it stopped. -/
inductive Passage : Bytes → List Taken → Bytes → Prop
  | done : Passage rest [] rest
  | call (read : outcome taken.kind.read (taken.piece ++ left) = (.ok taken.value, left))
      (later : Passage left calls rest) : Passage (taken.piece ++ left) (taken :: calls) rest

/-- What a call gives of the piece that it takes. Texts and byte strings are the end of the piece, behind
a header; bytes that are asked for by their number are the whole piece. -/
inductive Gives : Kind → Bytes → Value → Prop
  | map (moves : piece ≠ []) : Gives .map piece (.count count)
  | array (moves : piece ≠ []) : Gives .array piece (.count count)
  | str (moves : header ≠ []) : Gives .str (header ++ Text.Utf8.encode text) (.text text)
  | uint (moves : piece ≠ []) : Gives .uint piece (.number number)
  | bin (moves : header ≠ []) : Gives .bin (header ++ content) (.bytes content)
  | fixed (moves : header ≠ []) (sized : content.length = size) :
      Gives (.fixed size) (header ++ content) (.bytes content)
  | raw (sized : content.length = size) : Gives (.raw size) content (.bytes content)

theorem Gives.moves (gives : Gives kind piece value) (headed : ∀ size, kind ≠ .raw size) :
    0 < piece.length := by
  apply List.length_pos_iff.mpr
  cases gives with
  | map moves => exact moves
  | array moves => exact moves
  | str moves => exact List.append_ne_nil_of_left_ne_nil moves _
  | uint moves => exact moves
  | bin moves => exact List.append_ne_nil_of_left_ne_nil moves _
  | fixed moves _ => exact List.append_ne_nil_of_left_ne_nil moves _
  | raw _ => exact absurd rfl (headed _)

theorem Kind.gives_of_form {kind : Kind} (stands : kind.form value piece) : Gives kind piece value := by
  cases kind with
  | map =>
    obtain ⟨count, header, rfl⟩ := stands
    exact .map (by rintro rfl; cases header)
  | array =>
    obtain ⟨count, header, rfl⟩ := stands
    exact .array (by rintro rfl; cases header)
  | str =>
    obtain ⟨text, ⟨header, announced, rfl⟩, rfl⟩ := stands
    exact .str (by rintro rfl; cases announced)
  | uint =>
    obtain ⟨number, written, rfl⟩ := stands
    exact .uint (by rintro rfl; rcases written with written | written <;> cases written)
  | bin =>
    obtain ⟨content, ⟨header, announced, rfl⟩, rfl⟩ := stands
    exact .bin (by rintro rfl; cases announced)
  | fixed size =>
    obtain ⟨fixed, ⟨header, announced, rfl⟩, rfl⟩ := stands
    exact .fixed (by rintro rfl; cases announced) fixed.length_toList
  | raw size =>
    obtain ⟨content, ⟨rfl, sized⟩, rfl⟩ := stands
    exact .raw sized

theorem exists_taken (turns : Form.InTurn Kind.form kinds values pieces) :
    ∃ calls : List Taken, calls.map Taken.kind = kinds ∧ calls.map Taken.value = values ∧
      calls.map Taken.piece = pieces ∧ ∀ call ∈ calls, call.kind.form call.value call.piece := by
  induction turns with
  | nil => exact ⟨[], rfl, rfl, rfl, nofun⟩
  | cons first _ ih =>
    obtain ⟨calls, rfl, rfl, rfl, stand⟩ := ih
    exact ⟨⟨_, _, _⟩ :: calls, rfl, rfl, rfl, List.forall_mem_cons.mpr ⟨first, stand⟩⟩

theorem passage_of_forms {calls : List Taken}
    (stand : ∀ call ∈ calls, call.kind.form call.value call.piece) (rest : Bytes) :
    Passage ((calls.map Taken.piece).flatten ++ rest) calls rest := by
  induction calls with
  | nil => exact .done
  | cons call calls ih =>
    obtain ⟨first, later⟩ := List.forall_mem_cons.mp stand
    rw [List.map_cons, List.flatten_cons, List.append_assoc]
    exact .call (call.kind.read_follows.complete first _) (ih later)

/-- Bytes are not taken where fewer are left. -/
theorem take_eq_error_iff {count : Nat} {bytes left : Bytes} {fault : Fault} :
    outcome (take count) bytes = (.error fault, left) ↔
      bytes.length < count ∧ fault = .short count bytes.length ∧ left = bytes := by
  change (if count ≤ bytes.length then
    ((Except.ok (bytes.take count) : Except Fault Bytes), bytes.drop count)
    else (.error (.short count bytes.length), bytes)) = _ ↔ _
  split
  · rename_i enough
    exact ⟨nofun, fun given => absurd enough (Nat.not_le_of_lt given.1)⟩
  · rename_i short
    rw [Prod.mk.injEq, Except.error.injEq, eq_comm, eq_comm (a := bytes)]
    exact (and_iff_right (Nat.lt_of_not_le short)).symm

end MessagePack

open MessagePack

/-- A root key is tried as a map on a copy of the reader. Where the copy gets past a header, the entries are
read from its place; where it does not, the array is read from where the reader stood before. -/
theorem Ledger.RootKey.outcome_decoder (bytes : Bytes) :
    outcome RootKey.decoder bytes = match outcome readMap bytes with
      | (.ok count, left) => outcome (RootKey.readEntries count ⟨none, none⟩) left
      | (.error _, _) => outcome RootKey.arrayDrafts bytes := by
  have told : outcome (Decoder.read readMap) bytes =
      ((outcome readMap bytes).1.mapError _, (outcome readMap bytes).2) := rfl
  rw [RootKey.decoder_eq_trying, outcome_trying, RootKey.mapDrafts, outcome_bind, told]
  rcases outcome readMap bytes with ⟨fault | count, left⟩ <;> rfl

/-- The reader is a cursor over the bytes. Calls that succeed cut the bytes into the pieces that they take,
in order, and the rest; each value comes from its own piece; and the same pieces give the same values
whatever follows them. A failing request for bytes and calls on a copy leave the reader where it is. -/
theorem Ledger.reader_is_cursor :
    (∀ (kinds : List Kind) bytes values rest, outcome (kinds.mapM Kind.read) bytes = (.ok values, rest) →
      ∃ calls : List Taken, calls.map Taken.kind = kinds ∧ calls.map Taken.value = values ∧
        Passage bytes calls rest ∧ bytes = (calls.map Taken.piece).flatten ++ rest ∧
        (∀ call ∈ calls, Gives call.kind call.piece call.value ∧
          ((∀ size, call.kind ≠ .raw size) → 0 < call.piece.length)) ∧
        ∀ other, outcome (kinds.mapM Kind.read) ((calls.map Taken.piece).flatten ++ other) =
          (.ok values, other)) ∧
    (∀ count bytes fault left, outcome (take count) bytes = (.error fault, left) → left = bytes) ∧
    (∀ (kinds : List Kind) bytes (one two : Decoder RootKey.Draft),
      outcome (trying (kinds.mapM Kind.read) one two) bytes =
        match (outcome (kinds.mapM Kind.read) bytes).1 with
        | .ok _ => outcome one bytes
        | .error _ => outcome two bytes) ∧
    ∀ bytes, outcome RootKey.decoder bytes = match outcome readMap bytes with
      | (.ok count, left) => outcome (RootKey.readEntries count ⟨none, none⟩) left
      | (.error _, _) => outcome RootKey.arrayDrafts bytes := by
  refine ⟨fun kinds bytes values rest success => ?_, fun count bytes fault left failed => ?_,
    fun kinds bytes one two => ?_, RootKey.outcome_decoder⟩
  · have follows := Follows.inTurn Kind.read_follows kinds
    obtain ⟨_, ⟨pieces, turns, rfl⟩, rfl⟩ := (follows _ _ _).mp success
    obtain ⟨calls, sameKinds, sameValues, rfl, stand⟩ := exists_taken turns
    refine ⟨calls, sameKinds, sameValues, passage_of_forms stand rest, rfl, fun call member => ?_,
      follows.complete ⟨_, turns, rfl⟩⟩
    have gives := Kind.gives_of_form (stand call member)
    exact ⟨gives, gives.moves⟩
  · exact (take_eq_error_iff.mp failed).2.2
  · rw [outcome_trying]
    cases (outcome (kinds.mapM Kind.read) bytes).1 <;> rfl

/-- A text and four bytes, in front of another byte and of none. -/
theorem Ledger.reader_is_cursor_text :
    outcome ([Kind.str, .raw 4].mapM Kind.read) [0xa2, 0x67, 0x68, 1, 2, 3, 4, 5] =
        (.ok [.text "gh", .bytes [1, 2, 3, 4]], [5]) ∧
      ∃ calls : List Taken, calls.map Taken.kind = [.str, .raw 4] ∧
        calls.map Taken.value = [.text "gh", .bytes [1, 2, 3, 4]] ∧
        outcome ([Kind.str, .raw 4].mapM Kind.read) ((calls.map Taken.piece).flatten ++ []) =
          (.ok [.text "gh", .bytes [1, 2, 3, 4]], []) := by
  have read : outcome ([Kind.str, .raw 4].mapM Kind.read) [0xa2, 0x67, 0x68, 1, 2, 3, 4, 5] =
      (.ok [.text "gh", .bytes [1, 2, 3, 4]], [5]) := by decide
  obtain ⟨calls, kinds, values, _, _, _, others⟩ := Ledger.reader_is_cursor.1 _ _ _ _ read
  exact ⟨read, calls, kinds, values, others []⟩

end WalletTools
