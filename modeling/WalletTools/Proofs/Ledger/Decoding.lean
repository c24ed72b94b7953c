import WalletTools.Ledger.Transaction
import WalletTools.Proofs.Except
import WalletTools.Proofs.MessagePack.Format

/-! Decoding as a whole: maps of entries that are told apart by their names, and records that have to end
with the bytes they are read from. -/
namespace WalletTools.Ledger

open MessagePack

/-- A name in any width, and behind it a piece for what the entry holds. -/
def NamedForm (name : ι → String) (content : Form ι) : Form ι := fun entry piece =>
  ∃ key value, StrForm (name entry) key ∧ content entry value ∧ piece = key ++ value

namespace Decoder

theorem read_follows {reader : Reader α} {form : Form α} (follows : Follows reader form) :
    Follows (Decoder.read reader) form := follows.adapt _

/-- A step that goes on by the name it reads first. -/
theorem named_follows (name : ι → String) (content : Form ι) (set : ι → σ) {next : String → Decoder σ}
    (behind : ∀ key, Follows (next key) fun last piece =>
      ∃ entry, name entry = key ∧ content entry piece ∧ last = set entry) :
    Follows (Decoder.read readStr >>= next) fun last piece =>
      ∃ entry, NamedForm name content entry piece ∧ last = set entry := by
  refine ((read_follows readStr_follows).bind behind).congr fun last piece => ?_
  constructor
  · intro stands
    obtain ⟨_, key, value, named, ⟨entry, rfl, stands, rfl⟩, rfl⟩ := stands
    exact ⟨entry, ⟨key, value, named, stands, rfl⟩, rfl⟩
  · intro stands
    obtain ⟨entry, ⟨key, value, named, stands, rfl⟩, rfl⟩ := stands
    exact ⟨_, key, value, named, ⟨entry, rfl, stands, rfl⟩, rfl⟩

/-- A step that is taken over and over follows its form once for each time. -/
theorem repeated_follows {step : σ → Decoder σ} {entryForm : Form ι} {set : σ → ι → σ}
    (follows : ∀ state, Follows (step state)
      (fun next piece => ∃ entry, entryForm entry piece ∧ next = set state entry))
    (count : Nat) (state : σ) :
    Follows (Decoder.repeated step count state) (fun last piece =>
      ∃ entries, entries.length = count ∧ Form.Each entryForm entries piece ∧
        last = entries.foldl set state) := by
  induction count generalizing state with
  | zero =>
    refine (Follows.pure state).congr fun last piece => ?_
    constructor
    · intro stands
      obtain ⟨rfl, rfl⟩ := stands
      exact ⟨[], rfl, .nil, rfl⟩
    · intro stands
      obtain ⟨entries, empty, each, rfl⟩ := stands
      obtain rfl := List.eq_nil_of_length_eq_zero empty
      cases each
      exact ⟨rfl, rfl⟩
  | succ count ih =>
    -- One step, and from the state that it reaches the steps that are left.
    refine ((follows state).bind ih).congr fun last piece => ?_
    constructor
    · intro stands
      obtain ⟨_, front, back, ⟨entry, stands, rfl⟩, ⟨entries, rfl, each, rfl⟩, rfl⟩ := stands
      exact ⟨entry :: entries, rfl, .cons stands each, rfl⟩
    · intro stands
      obtain ⟨entries, counted, each, rfl⟩ := stands
      cases each with
      | nil => cases counted
      | @cons entry front entries back stands each =>
        exact ⟨_, front, back, ⟨entry, stands, rfl⟩, ⟨entries, by simpa using counted, each, rfl⟩, rfl⟩

/-- The header of a map, and behind it a step for each of so many entries. -/
theorem map_follows {step : σ → Decoder σ} {entryForm : Form ι} {set : σ → ι → σ}
    (follows : ∀ state, Follows (step state)
      (fun next piece => ∃ entry, entryForm entry piece ∧ next = set state entry)) (state : σ) :
    Follows (Decoder.read readMap >>= fun count => Decoder.repeated step count state) fun last piece =>
      ∃ entries header body, MapHeader entries.length header ∧ Form.Each entryForm entries body ∧
        piece = header ++ body ∧ last = entries.foldl set state := by
  refine ((read_follows readMap_follows).bind fun count =>
    repeated_follows follows count state).congr fun last piece => ?_
  constructor
  · intro stands
    obtain ⟨_, header, body, counted, ⟨entries, rfl, each, rfl⟩, rfl⟩ := stands
    exact ⟨entries, header, body, counted, each, rfl, rfl⟩
  · intro stands
    obtain ⟨entries, header, body, counted, each, rfl, rfl⟩ := stands
    exact ⟨_, header, body, counted, ⟨entries, rfl, each, rfl⟩, rfl⟩

/-! ## Whole records -/

theorem outcome_whole (decoder : Decoder α) (record : RecordKind) (bytes : Bytes) :
    outcome (decoder.whole record) bytes = match outcome decoder bytes with
      | (.ok value, rest) =>
        if rest ≠ [] then (.error (.decoding (.trailing rest.length record)), rest)
        else (.ok value, rest)
      | (.error fault, rest) => (.error fault, rest) := by
  unfold Decoder.whole
  rw [outcome_bind]
  rcases outcome decoder bytes with ⟨fault | value, rest⟩
  · rfl
  · change outcome (if rest ≠ [] then _ else _) rest = if rest ≠ [] then _ else _
    split <;> rfl

theorem decode_eq_outcome (decoder : Decoder α) (bytes : Bytes) :
    decoder.decode bytes = (outcome decoder bytes).1 := rfl

section

variable {decoder : Decoder α} {form : Form α} (follows : Follows decoder form) (record : RecordKind)
include follows

/-- A record that has to end with the bytes is read exactly from a piece of its form. -/
theorem decode_whole {bytes : Bytes} {value : α} :
    (decoder.whole record).decode bytes = .ok value ↔ form value bytes := by
  rw [decode_eq_outcome, outcome_whole]
  constructor
  · intro success
    cases found : outcome decoder bytes with
    | mk result rest =>
      rw [found] at success
      cases result with
      | error fault => cases success
      | ok actual =>
        by_cases ended : rest = []
        · subst rest
          obtain ⟨piece, stands, rfl⟩ := (follows _ _ _).mp found
          cases success
          simpa using stands
        · simp [ended] at success
  · intro stands
    have found := follows.complete stands []
    rw [List.append_nil] at found
    rw [found]
    rfl

/-- Bytes behind a record are noticed, and their number is told. -/
theorem decode_whole_append {bytes extra : Bytes} {value : α} (stands : form value bytes)
    (more : extra ≠ []) : (decoder.whole record).decode (bytes ++ extra) =
      .error (.decoding (.trailing extra.length record)) := by
  rw [decode_eq_outcome, outcome_whole, follows.complete stands extra]
  dsimp only
  rw [if_pos more]

/-- A value that is made of a whole record, where it can be made of it. -/
theorem decode_whole_bind {bytes : Bytes} {complete : α → Except Error β} {result : β} :
    (decoder.whole record).decode bytes >>= complete = .ok result ↔
      ∃ value, form value bytes ∧ complete value = .ok result := by
  simp only [bind_eq_ok_iff, decode_whole follows]

end

end Decoder

end WalletTools.Ledger
