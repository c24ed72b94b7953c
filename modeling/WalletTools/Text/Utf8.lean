import WalletTools.Bytes

/-! UTF-8: the bytes of a text, the text of bytes, the first place where bytes write no text, and a
reading that puts a replacement character in every such place. -/
namespace WalletTools.Text.Utf8

/-- The bytes that write a text. -/
def encode (text : String) : Bytes := text.toByteArray.data.toList

/-- What stands at the start of bytes: a whole character, bytes that can start none, or the start of
a character that the bytes end in. -/
inductive Start
  | whole (size : Nat)
  | broken (size : Nat)
  | cut
deriving DecidableEq, Repr

/-- How many bytes follow the first byte of a character, and the range of the first of them. -/
def followers (byte : UInt8) : Option (Nat × UInt8 × UInt8) :=
  if byte < 0x80 then some (0, 0x80, 0xbf)
  else if byte < 0xc2 then none
  else if byte < 0xe0 then some (1, 0x80, 0xbf)
  else if byte = 0xe0 then some (2, 0xa0, 0xbf)
  else if byte = 0xed then some (2, 0x80, 0x9f)
  else if byte < 0xf0 then some (2, 0x80, 0xbf)
  else if byte = 0xf0 then some (3, 0x90, 0xbf)
  else if byte < 0xf4 then some (3, 0x80, 0xbf)
  else if byte = 0xf4 then some (3, 0x80, 0x8f)
  else none

/-- Whether `count` bytes continue a character of which `seen` bytes are read, the next one being
within a range. -/
def continues (seen : Nat) : (count : Nat) → (low high : UInt8) → Bytes → Start
  | 0, _, _, _ => .whole seen
  | _ + 1, _, _, [] => .cut
  | count + 1, low, high, byte :: rest =>
    if low ≤ byte ∧ byte ≤ high then continues (seen + 1) count 0x80 0xbf rest
    else .broken seen

def start : Bytes → Start
  | [] => .cut
  | byte :: rest =>
    match followers byte with
    | none => .broken 1
    | some (count, low, high) => continues 1 count low high rest

/-- Where bytes stop being text. -/
inductive Fault
  | broken (size position : Nat)
  | cut (position : Nat)
deriving DecidableEq, Repr

def Fault.message : Fault → String
  | .broken size position => s!"invalid utf-8 sequence of {size} bytes from index {position}"
  | .cut position => s!"incomplete utf-8 byte sequence from index {position}"

/-- The first fault at or after a position, in bytes of which at most `fuel` characters are looked
at. -/
def faultFrom : (fuel position : Nat) → Bytes → Fault
  | 0, position, _ => .cut position
  | fuel + 1, position, bytes =>
    match start bytes with
    | .whole size => faultFrom fuel (position + size) (bytes.drop size)
    | .broken size => .broken size position
    | .cut => .cut position

/-- The text that bytes write, or the first place where they stop being text. -/
def decode (bytes : Bytes) : Except Fault String :=
  match String.fromUTF8? ⟨bytes.toArray⟩ with
  | some text => .ok text
  | none => .error (faultFrom (bytes.length + 1) 0 bytes)

/-- What a text's bytes write is that text. -/
@[simp] theorem decode_encode (text : String) : decode (encode text) = .ok text := by
  have same : (⟨(encode text).toArray⟩ : ByteArray) = text.toByteArray := by simp [encode]
  have valid : String.fromUTF8? text.toByteArray = some text := by
    unfold String.fromUTF8?
    rw [dif_pos text.isValidUTF8]
    rfl
  unfold decode
  rw [same, valid]

/-- Bytes that write a text are the bytes of that text. -/
theorem eq_encode_of_decode {bytes : Bytes} {text : String} (read : decode bytes = .ok text) :
    bytes = encode text := by
  unfold decode at read
  split at read
  · rename_i found valid
    cases read
    unfold String.fromUTF8? at valid
    split at valid
    · cases valid; rfl
    · cases valid
  · cases read

theorem decode_eq_ok_iff {bytes : Bytes} {text : String} :
    decode bytes = .ok text ↔ bytes = encode text :=
  ⟨eq_encode_of_decode, fun same => same ▸ decode_encode text⟩

/-- The code point that the bytes of one character write. -/
def codePoint : Bytes → Nat
  | [a] => a.toNat
  | [a, b] => a.toNat % 32 * 64 + b.toNat % 64
  | [a, b, c] => a.toNat % 16 * 4096 + b.toNat % 64 * 64 + c.toNat % 64
  | [a, b, c, d] =>
    a.toNat % 8 * 262144 + b.toNat % 64 * 4096 + c.toNat % 64 * 64 + d.toNat % 64
  | _ => 0

/-- What stands for bytes that write no character. -/
def replacement : Char := Char.ofNat 0xfffd

/-- The characters of bytes, at most `fuel` of them. -/
def replacedFrom : (fuel : Nat) → Bytes → List Char
  | 0, _ => []
  | _ + 1, [] => []
  | fuel + 1, bytes =>
    match start bytes with
    | .whole size => Char.ofNat (codePoint (bytes.take size)) :: replacedFrom fuel (bytes.drop size)
    | .broken size => replacement :: replacedFrom fuel (bytes.drop size)
    | .cut => [replacement]

/-- The text of any bytes: a mark at the start is dropped, and the longest starts of characters that
cannot go on are replaced, one by one. -/
def decodeReplacing (bytes : Bytes) : String :=
  let body := if bytes.take 3 = [0xef, 0xbb, 0xbf] then bytes.drop 3 else bytes
  match String.fromUTF8? ⟨body.toArray⟩ with
  | some text => text
  | none => String.ofList (replacedFrom body.length body)

end WalletTools.Text.Utf8
