import WalletTools.Text.Blank
import WalletTools.Text.LowerCase
import WalletTools.Text.Utf8

/-! Words that are written one after the other, and words that lower case leaves alone. -/
namespace WalletTools.Text

/-- At least one character, and none that is blank. -/
structure Solid (text : String) : Prop where
  present : text ≠ ""
  dense : ∀ char ∈ text.toList, isBlank char = false

private theorem wordsFrom_append (dense : ∀ char ∈ run, isBlank char = false)
    (word rest : List Char) : wordsFrom word (run ++ rest) = wordsFrom (run.reverse ++ word) rest := by
  induction run generalizing word with
  | nil => rfl
  | cons char run ih =>
    obtain ⟨solid, later⟩ := List.forall_mem_cons.mp dense
    rw [List.cons_append, wordsFrom, solid, if_neg Bool.false_ne_true, ih later]
    simp

theorem words_of_solid (solid : Solid word) : words word = [word] := by
  have run := wordsFrom_append solid.dense [] []
  simp only [List.append_nil] at run
  rw [words, run, wordsFrom]
  simp [solid.present]

theorem words_append_blank (solid : Solid word) (text : String) :
    words (word ++ " " ++ text) = word :: words text := by
  have blank : isBlank ' ' = true := by simp [isBlank, blanks, CodeRanges.contains]
  have spelled : (word ++ " " ++ text).toList = word.toList ++ ' ' :: text.toList := by simp
  rw [words, spelled, wordsFrom_append solid.dense, wordsFrom, blank]
  simp [solid.present, words]

/-- Words with a space between each two of them are read as those words. -/
theorem words_intercalate (solid : ∀ word ∈ list, Solid word) : words (" ".intercalate list) = list := by
  induction list with
  | nil => decide
  | cons word rest ih =>
    obtain ⟨first, later⟩ := List.forall_mem_cons.mp solid
    by_cases last : rest = []
    · subst rest
      rw [String.intercalate_singleton, words_of_solid first]
    · rw [String.intercalate_cons_of_ne_nil last, words_append_blank first, ih later]

/-- The letters from a to z. -/
def IsLowerLetter (char : Char) : Prop := 97 ≤ char.toNat ∧ char.toNat ≤ 122

theorem IsLowerLetter.not_blank (letter : IsLowerLetter char) : isBlank char = false := by
  obtain ⟨low, high⟩ := letter
  simp [isBlank, blanks, CodeRanges.contains]
  omega

theorem IsLowerLetter.lowerChar (letter : IsLowerLetter char) : lowerChar char = [char] := by
  obtain ⟨low, high⟩ := letter
  have capital : ¬ (char.val ≥ 'A'.val ∧ char.val ≤ 'Z'.val) := by
    intro between
    have upper : char.toNat ≤ 90 := between.2
    omega
  have kept : char.toLower = char := dif_neg capital
  rw [Text.lowerChar, if_pos (by omega), kept]

private theorem lowerFrom_letters (letters : ∀ char ∈ list, IsLowerLetter char) (before : List Char) :
    lowerFrom before list = list := by
  induction list generalizing before with
  | nil => rfl
  | cons char rest ih =>
    obtain ⟨first, later⟩ := List.forall_mem_cons.mp letters
    have sigma : char.toNat ≠ 0x3a3 := by
      have high := first.2
      omega
    simp only [lowerFrom, if_neg sigma, first.lowerChar, ih later]
    rfl

theorem lowerCase_letters (letters : ∀ char ∈ text.toList, IsLowerLetter char) :
    lowerCase text = text := by
  rw [lowerCase, lowerFrom_letters letters, String.ofList_toList]

/-! ## Bytes -/

theorem Utf8.encode_eq_flatMap (text : String) :
    Utf8.encode text = text.toList.flatMap String.utf8EncodeChar := by
  rw [Utf8.encode, ← String.utf8Encode_toList, List.utf8Encode, List.toList_data_toByteArray]

private theorem lowerLetter_of_bytes
    (bytes : ∀ byte ∈ String.utf8EncodeChar char, 97 ≤ byte.toNat ∧ byte.toNat ≤ 122) :
    IsLowerLetter char := by
  by_cases ascii : char.toNat ≤ 0x7f
  · have whole : UInt8.ofNat char.toNat ∈ String.utf8EncodeChar char := by
      unfold String.utf8EncodeChar
      rw [if_pos (show char.val.toNat ≤ 0x7f from ascii)]
      exact List.mem_singleton.mpr rfl
    have letter := bytes _ whole
    rwa [UInt8.toNat_ofNat_of_lt' (show char.toNat < 256 by omega)] at letter
  · have last : UInt8.ofNat (char.toNat % 0x40 + 0x80) ∈ String.utf8EncodeChar char := by
      unfold String.utf8EncodeChar
      rw [if_neg (show ¬ char.val.toNat ≤ 0x7f from ascii)]
      split
      · exact List.mem_of_getLast? rfl
      · split <;> exact List.mem_of_getLast? rfl
    have letter := bytes _ last
    rw [UInt8.toNat_ofNat_of_lt' (show char.toNat % 0x40 + 0x80 < 256 by omega)] at letter
    omega

/-- A text whose bytes are letters from a to z consists of these letters. -/
theorem letters_of_bytes (bytes : ∀ byte ∈ Utf8.encode text, 97 ≤ byte.toNat ∧ byte.toNat ≤ 122) :
    ∀ char ∈ text.toList, IsLowerLetter char := by
  intro char member
  apply lowerLetter_of_bytes
  intro byte part
  apply bytes
  rw [Utf8.encode_eq_flatMap]
  exact List.mem_flatMap.mpr ⟨char, member, part⟩

end WalletTools.Text
