import Mathlib.Data.List.Nodup
import WalletTools.Ledger.Mnemonic
import WalletTools.Proofs.Text.Words

/-! The words of the list are different from each other, so that each has one number, and consist of
lower letters only, so that they are read from a phrase as they are written in it. -/
namespace WalletTools.Ledger.Mnemonic

open Text

/-- Whether each byte string is before the next one. -/
def ascending : List Bytes → Bool
  | first :: second :: rest => decide (first < second) && ascending (second :: rest)
  | _ => true

private theorem isChain_of_ascending : (list : List Bytes) → ascending list = true →
    list.IsChain (· < ·)
  | [], _ => .nil
  | [first], _ => .singleton first
  | first :: second :: rest, checked => by
    simp only [ascending, Bool.and_eq_true, decide_eq_true_eq] at checked
    exact .cons_cons checked.1 (isChain_of_ascending (second :: rest) checked.2)

private theorem nodup_of_ascending {list : List Bytes} (checked : ascending list = true) :
    list.Nodup := by
  have ordered : list.Pairwise (· < ·) := (isChain_of_ascending list checked).pairwise
  refine ordered.imp ?_
  intro left right before same
  rw [same] at before
  exact List.lt_irrefl right before

theorem wordList_nodup : wordList.Nodup := by
  -- To compare neighbours only takes a thousandth of what it takes to compare all pairs.
  have checked : ascending (wordList.map Utf8.encode) = true := by decide +kernel
  exact List.Nodup.of_map Utf8.encode (nodup_of_ascending checked)

private theorem wordList_bytes : wordList.all (fun word => !(Utf8.encode word).isEmpty &&
    (Utf8.encode word).all fun byte => 97 ≤ byte.toNat && byte.toNat ≤ 122) = true := by
  decide +kernel

theorem letters_of_mem (member : text ∈ wordList) :
    text ≠ "" ∧ ∀ char ∈ text.toList, IsLowerLetter char := by
  have checked := List.all_eq_true.mp wordList_bytes text member
  simp only [Bool.and_eq_true, List.all_eq_true, decide_eq_true_eq] at checked
  refine ⟨?_, letters_of_bytes checked.2⟩
  intro empty
  subst empty
  exact absurd checked.1 (by decide)

theorem solid_of_mem (member : text ∈ wordList) : Solid text :=
  ⟨(letters_of_mem member).1, fun char part => ((letters_of_mem member).2 char part).not_blank⟩

theorem lowerCase_of_mem (member : text ∈ wordList) : lowerCase text = text :=
  lowerCase_letters (letters_of_mem member).2

/-! ## Words and numbers -/

theorem word_eq_getElem (small : number < wordList.length) : word number = wordList[number] := by
  rw [word, List.getD_eq_getElem?_getD, List.getElem?_eq_getElem small, Option.getD_some]

theorem word_mem (small : number < 2048) : word number ∈ wordList := by
  rw [word_eq_getElem (length_wordList ▸ small)]
  exact List.getElem_mem _

private theorem idxOf?_eq_some_iff :
    wordList.idxOf? text = some number ↔ number < 2048 ∧ text = word number := by
  rw [List.idxOf?_eq_some_iff]
  constructor
  · intro found
    obtain ⟨small, rfl, _⟩ := found
    exact ⟨length_wordList ▸ small, (word_eq_getElem small).symm⟩
  · intro given
    obtain ⟨small, rfl⟩ := given
    have listed : number < wordList.length := length_wordList ▸ small
    refine ⟨listed, (word_eq_getElem listed).symm, fun earlier before same => ?_⟩
    rw [word_eq_getElem listed] at same
    have equal := (List.Nodup.getElem_inj_iff wordList_nodup).mp same
    omega

theorem wordNumber_eq_ok_iff : wordNumber text = .ok number ↔ number < 2048 ∧ text = word number := by
  rw [← idxOf?_eq_some_iff, wordNumber]
  cases wordList.idxOf? text <;> simp

theorem wordNumber_of_mem (member : text ∈ wordList) : wordNumber text = .ok (wordList.idxOf text) := by
  have listed := List.idxOf_lt_length_iff.mpr member
  rw [wordNumber_eq_ok_iff, ← length_wordList]
  exact ⟨listed, by rw [word_eq_getElem listed, List.getElem_idxOf]⟩

theorem idxOf_word (small : number < 2048) : wordList.idxOf (word number) = number := by
  have read := wordNumber_eq_ok_iff.mpr ⟨small, rfl⟩
  rw [wordNumber_of_mem (word_mem small)] at read
  exact Except.ok.inj read

theorem wordNumber_eq_error_iff {fault : Error} :
    wordNumber text = .error fault ↔ text ∉ wordList ∧ fault = .unknownWord text := by
  by_cases member : text ∈ wordList
  · simp [wordNumber_of_mem member, member]
  · rw [wordNumber, List.idxOf?_eq_none_iff.mpr member]
    simp [member, eq_comm]

end WalletTools.Ledger.Mnemonic
