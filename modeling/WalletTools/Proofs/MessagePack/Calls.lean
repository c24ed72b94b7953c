import WalletTools.Proofs.MessagePack.Shortest

/-! Calls of the reader and the writer, one after the other. Each call of the reader takes a piece that
stands for its value, and what is written is read back by the calls that belong to it. -/
namespace WalletTools.MessagePack

/-- The pieces that a call of the reader takes for a value. -/
def Kind.form : Kind → Form Value
  | .map => Form.image MapHeader .count
  | .array => Form.image ArrayHeader .count
  | .str => Form.image StrForm .text
  | .uint => Form.image UIntForm .number
  | .bin => Form.image BinForm .bytes
  | .fixed size => Form.image (FixedForm size) fun fixed => .bytes fixed.toList
  | .raw size => Form.image (fun content piece => content = piece ∧ piece.length = size) .bytes

theorem Kind.read_follows (kind : Kind) : Follows kind.read kind.form := by
  cases kind with
  | map => exact readMap_follows.image _
  | array => exact readArray_follows.image _
  | str => exact readStr_follows.image _
  | uint => exact readUInt_follows.image _
  | bin => exact readBin_follows.image _
  | fixed size => exact (readFixed_follows size).image _
  | raw size => exact (take_follows size).image _

/-! ## Written values -/

/-- A value that can be written. -/
inductive Item
  | map (count : Nat)
  | str (text : String)
  | uint (number : UInt64)
  | bin (content : Bytes)
deriving DecidableEq, Repr

namespace Item

def write : Item → Bytes
  | .map count => writeMap count
  | .str text => writeStr text
  | .uint number => writeUInt number
  | .bin content => writeBin content

/-- The call that reads such a value. -/
def kind : Item → Kind
  | .map _ => .map
  | .str _ => .str
  | .uint _ => .uint
  | .bin _ => .bin

/-- The value that the call gives. -/
def value : Item → Value
  | .map count => .count count
  | .str text => .text text
  | .uint number => .number number
  | .bin content => .bytes content

/-- Whether the value's length has room in a header. -/
def Fits : Item → Prop
  | .map count => count < 2 ^ 32
  | .str text => (Text.Utf8.encode text).length < 2 ^ 32
  | .uint _ => True
  | .bin content => content.length < 2 ^ 32

instance : DecidablePred Fits
  | .map _ => inferInstanceAs (Decidable (_ < _))
  | .str _ => inferInstanceAs (Decidable (_ < _))
  | .uint _ => inferInstanceAs (Decidable True)
  | .bin _ => inferInstanceAs (Decidable (_ < _))

theorem write_form {item : Item} (fits : item.Fits) : item.kind.form item.value item.write := by
  cases item with
  | map count => exact ⟨count, writeMap_header fits, rfl⟩
  | str text => exact ⟨text, writeStr_form fits, rfl⟩
  | uint number => exact ⟨number, writeUInt_form number, rfl⟩
  | bin content => exact ⟨content, writeBin_form fits, rfl⟩

/-- No piece that is read as a value is shorter than what is written for it. -/
theorem length_write_le {item : Item} {piece : Bytes} (stands : item.kind.form item.value piece) :
    item.write.length ≤ piece.length := by
  cases item with
  | map count =>
    obtain ⟨_, header, same⟩ := stands
    cases same
    exact header.length_le
  | str text =>
    obtain ⟨_, stands, same⟩ := stands
    cases same
    exact stands.length_le
  | uint number =>
    obtain ⟨_, stands, same⟩ := stands
    cases same
    exact stands.length_le
  | bin content =>
    obtain ⟨_, stands, same⟩ := stands
    cases same
    exact stands.length_le

theorem inTurn_write {items : List Item} (fits : ∀ item ∈ items, item.Fits) :
    Form.InTurn Kind.form (items.map kind) (items.map value) (items.map write) := by
  induction items with
  | nil => exact .nil
  | cons item items ih =>
    obtain ⟨first, later⟩ := List.forall_mem_cons.mp fits
    exact .cons (write_form first) (ih later)

end Item

/-- Values written one after the other are read back by the calls that belong to them, up to where they
end, and no bytes that a call reads as its value are fewer than those that are written for it. -/
theorem written_read_back {items : List Item} (fits : ∀ item ∈ items, item.Fits) (rest : Bytes) :
    outcome ((items.map Item.kind).mapM Kind.read) (items.flatMap Item.write ++ rest) =
        (.ok (items.map Item.value), rest) ∧
      ∀ item ∈ items, ∀ piece, outcome item.kind.read piece = (.ok item.value, []) →
        item.write.length ≤ piece.length := by
  constructor
  · have turns := Item.inTurn_write fits
    have written : items.flatMap Item.write = (items.map Item.write).flatten := List.flatMap_def
    exact (Follows.inTurn Kind.read_follows _).complete ⟨_, turns, written⟩ rest
  · intro item _ piece read
    obtain ⟨front, stands, same⟩ := (item.kind.read_follows _ _ _).mp read
    rw [same, List.append_nil]
    exact Item.length_write_le stands

/-- A payment's amount behind the header of its map. -/
theorem written_read_back_amount : (∀ item ∈ [Item.map 1, .str "amt", .uint 300], item.Fits) ∧
    outcome ([Kind.map, .str, .uint].mapM Kind.read)
        ([0x81, 0xa3, 0x61, 0x6d, 0x74, 0xcd, 0x01, 0x2c] ++ [7]) =
      (.ok [.count 1, .text "amt", .number 300], [7]) := by
  have fits : ∀ item ∈ [Item.map 1, .str "amt", .uint 300], item.Fits := by decide
  have written : [Item.map 1, .str "amt", .uint 300].flatMap Item.write =
      [0x81, 0xa3, 0x61, 0x6d, 0x74, 0xcd, 0x01, 0x2c] := by decide
  have read := (written_read_back fits [7]).1
  rw [written] at read
  exact ⟨fits, read⟩

end WalletTools.MessagePack
