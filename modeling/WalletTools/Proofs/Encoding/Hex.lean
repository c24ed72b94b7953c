import WalletTools.Encoding.Hex

/-! Hexadecimal text is read back as the bytes that it writes: two digits for each, in lower case. -/
namespace WalletTools.Hex

/-- The digits that are written. -/
def lowerDigits : List Char :=
  ['0', '1', '2', '3', '4', '5', '6', '7', '8', '9', 'a', 'b', 'c', 'd', 'e', 'f']

theorem digitValue?_digit {value : Nat} (small : value < 16) : digitValue? (digit value) = some value := by
  have all : ∀ value : Fin 16, digitValue? (digit value.val) = some value.val := by decide
  exact all ⟨value, small⟩

theorem digit_mem_lowerDigits {value : Nat} (small : value < 16) : digit value ∈ lowerDigits := by
  have all : ∀ value : Fin 16, digit value.val ∈ lowerDigits := by decide
  exact all ⟨value, small⟩

theorem toList_encode (bytes : Bytes) : (encode bytes).toList = bytes.flatMap encodeByte :=
  String.toList_ofList

theorem decode?_encode (bytes : Bytes) : decode? (encode bytes) = some bytes := by
  unfold decode?
  rw [toList_encode]
  induction bytes with
  | nil => rfl
  | cons byte bytes ih =>
    have small := byte.toNat_lt
    have same : 16 * (byte.toNat / 16) + byte.toNat % 16 = byte.toNat := Nat.div_add_mod _ _
    change decodeChars? (digit (byte.toNat / 16) :: digit (byte.toNat % 16) :: bytes.flatMap encodeByte) = _
    rw [decodeChars?, digitValue?_digit (by omega), digitValue?_digit (by omega), ih]
    change some (UInt8.ofNat (16 * (byte.toNat / 16) + byte.toNat % 16) :: bytes) = _
    rw [same, UInt8.ofNat_toNat]

theorem length_encode (bytes : Bytes) : (encode bytes).toList.length = 2 * bytes.length := by
  rw [toList_encode]
  induction bytes with
  | nil => rfl
  | cons byte bytes ih =>
    rw [List.flatMap_cons, List.length_append, ih, List.length_cons]
    change 2 + _ = _
    omega

theorem mem_lowerDigits_of_mem_encode {bytes : Bytes} {char : Char} (known : char ∈ (encode bytes).toList) :
    char ∈ lowerDigits := by
  rw [toList_encode] at known
  obtain ⟨byte, _, known⟩ := List.mem_flatMap.mp known
  have small := byte.toNat_lt
  simp only [encodeByte, List.mem_cons, List.not_mem_nil, or_false] at known
  rcases known with rfl | rfl
  · exact digit_mem_lowerDigits (by omega)
  · exact digit_mem_lowerDigits (by omega)

end WalletTools.Hex
