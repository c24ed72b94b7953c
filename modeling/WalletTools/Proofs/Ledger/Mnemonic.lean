import WalletTools.Proofs.Except
import WalletTools.Proofs.Ledger.Regrouping
import WalletTools.Proofs.Ledger.WordList

/-! Phrases and seeds: a phrase is accepted for a seed exactly where its words, in lower case, are the
words of the seed's mnemonic. The digest that selects the last word may be any. -/
namespace WalletTools.Ledger.Mnemonic

open Radix

/-! ## Numbers and seeds -/

theorem length_unpack_key (key : FixedBytes 32) : (unpack key.toList).length = keyWords := by
  rw [length_unpack, key.length_toList]
  rfl

theorem ofBytes_spare (key : FixedBytes 32) : ofBytes (key.toList ++ [0]) = ofBytes key.toList := by
  rw [ofBytes_append]
  rfl

/-- Numbers are packed into a seed and an empty spare byte only if they are the seed's numbers. -/
theorem pack_eq_iff {key : FixedBytes 32} (below : ∀ number ∈ numbers, number < 2048)
    (counted : numbers.length = keyWords) :
    pack numbers = key.toList ++ [0] ↔ numbers = unpack key.toList := by
  constructor
  · intro packed
    apply value_injective below fun _ member => lt_of_mem_unpack member
    · rw [counted, length_unpack_key]
    · rw [value_unpack, ← ofBytes_spare, ← packed, ofBytes_pack below]
  · intro same
    subst same
    apply ofBytes_injective
    · rw [length_pack, counted, List.length_append, key.length_toList]
      rfl
    · rw [ofBytes_pack below, value_unpack, ofBytes_spare]

/-! ## Reading a phrase -/

theorem take_append_getD {list : List α} (sized : list.length = count + 1) (fallback : α) :
    list.take count ++ [list.getD count fallback] = list := by
  have listed : count < list.length := by omega
  have whole : list.take (count + 1) = list := List.take_of_length_le (Nat.le_of_eq sized)
  rw [List.getD_eq_getElem?_getD, List.getElem?_eq_getElem listed, Option.getD_some,
    List.take_append_getElem, whole]

/-- Thirty-three bytes are a seed and an empty spare byte. -/
theorem spare_iff {key : FixedBytes 32} (sized : bytes.length = 33) (enough : 32 ≤ bytes.length) :
    bytes = key.toList ++ [0] ↔ bytes.getD 32 0 = 0 ∧ FixedBytes.take 32 bytes enough = key := by
  constructor
  · intro same
    subst same
    have start : (key.toList ++ [0]).take 32 = key.toList := List.take_left' key.length_toList
    exact ⟨by simp [key.length_toList], FixedBytes.ext start⟩
  · intro given
    obtain ⟨empty, rfl⟩ := given
    have whole := take_append_getD sized 0
    rw [empty] at whole
    exact whole.symm

theorem toKey_eq_ok_iff {phrase : String} {key : FixedBytes 32} : toKey phrase = .ok key ↔
    (phraseWords phrase).length = wordCount ∧ ∃ numbers,
      ((phraseWords phrase).take keyWords).mapM wordNumber = .ok numbers ∧
      pack numbers = key.toList ++ [0] ∧ (phraseWords phrase).getD keyWords "" = checksumWord key := by
  unfold toKey
  simp only [refuse_eq_ok_iff, bind_eq_ok_iff, ne_eq, not_not]
  refine and_congr_right fun _ => exists_congr fun numbers => and_congr_right fun _ => ?_
  by_cases sized : (pack numbers).length = 33
  · rw [dif_pos sized, refuse_eq_ok_iff, refuse_eq_ok_iff, not_not, not_not, spare_iff sized (by omega)]
    constructor
    · intro success
      obtain ⟨empty, checked, done⟩ := success
      cases done
      exact ⟨⟨empty, rfl⟩, checked⟩
    · intro given
      obtain ⟨⟨empty, rfl⟩, checked⟩ := given
      exact ⟨empty, checked, rfl⟩
  · -- Packed bytes of another length are refused, and are not a seed with its spare byte either.
    rw [dif_neg sized]
    refine ⟨nofun, fun given => absurd ?_ sized⟩
    rw [given.1, List.length_append, key.length_toList]
    rfl

theorem mapM_wordNumber_eq_ok_iff {list : List String} {numbers : List Nat} :
    list.mapM wordNumber = .ok numbers ↔
      (∀ number ∈ numbers, number < 2048) ∧ list = numbers.map word := by
  rw [mapM_eq_ok_iff]
  constructor
  · intro each
    induction each with
    | nil => exact ⟨nofun, rfl⟩
    | cons first _ ih =>
      obtain ⟨small, rfl⟩ := wordNumber_eq_ok_iff.mp first
      obtain ⟨below, rfl⟩ := ih
      exact ⟨List.forall_mem_cons.mpr ⟨small, below⟩, rfl⟩
  · intro given
    obtain ⟨below, rfl⟩ := given
    rw [List.forall₂_map_left_iff, List.forall₂_same]
    exact fun number member => wordNumber_eq_ok_iff.mpr ⟨below number member, rfl⟩

/-- A phrase is read as a seed exactly where its words are the seed's. -/
theorem toKey_iff_words {phrase : String} {key : FixedBytes 32} :
    toKey phrase = .ok key ↔ phraseWords phrase = keyWordList key := by
  rw [toKey_eq_ok_iff]
  constructor
  · intro success
    obtain ⟨sized, numbers, found, packed, last⟩ := success
    obtain ⟨below, taken⟩ := mapM_wordNumber_eq_ok_iff.mp found
    have counted : numbers.length = keyWords := by
      rw [← List.length_map word, ← taken, List.length_take, sized]
      rfl
    rw [(pack_eq_iff below counted).mp packed] at taken
    rw [← take_append_getD sized "", taken, last]
    rfl
  · intro same
    have counted : ((unpack key.toList).map word).length = keyWords := by
      rw [List.length_map, length_unpack_key]
    have below : ∀ number ∈ unpack key.toList, number < 2048 := fun _ member => lt_of_mem_unpack member
    rw [same, keyWordList]
    refine ⟨by simp [length_unpack_key, wordCount], unpack key.toList, ?_, ?_, ?_⟩
    · rw [List.take_left' counted]
      exact mapM_wordNumber_eq_ok_iff.mpr ⟨below, rfl⟩
    · exact (pack_eq_iff below (length_unpack_key key)).mpr rfl
    · rw [List.getD_eq_getElem?_getD, List.getElem?_append_right (Nat.le_of_eq counted), counted]
      rfl

/-! ## Phrases -/

theorem mem_wordList_of_mem (key : FixedBytes 32) (member : text ∈ keyWordList key) : text ∈ wordList := by
  rcases List.mem_append.mp member with held | last
  · obtain ⟨number, given, rfl⟩ := List.mem_map.mp held
    exact word_mem (lt_of_mem_unpack given)
  · rw [List.mem_singleton.mp last]
    exact word_mem (Nat.mod_lt _ (by decide))

theorem length_keyWordList (key : FixedBytes 32) : (keyWordList key).length = wordCount := by
  rw [keyWordList, List.length_append, List.length_map, length_unpack_key]
  rfl

theorem words_ofKey (key : FixedBytes 32) : Text.words (ofKey key) = keyWordList key :=
  Text.words_intercalate fun _ member => solid_of_mem (mem_wordList_of_mem key member)

/-- Words of the list are read from a phrase as they are. -/
theorem phraseWords_intercalate {list : List String} (listed : ∀ text ∈ list, text ∈ wordList) :
    phraseWords (" ".intercalate list) = list := by
  rw [phraseWords, Text.words_intercalate fun text member => solid_of_mem (listed text member)]
  refine (List.map_congr_left fun text member => ?_).trans (List.map_id _)
  exact lowerCase_of_mem (listed text member)

theorem phraseWords_ofKey (key : FixedBytes 32) : phraseWords (ofKey key) = keyWordList key :=
  phraseWords_intercalate fun _ member => mem_wordList_of_mem key member

/-- A phrase is accepted for a seed where its words in lower case are those of the seed's mnemonic,
which is itself accepted and whose words are the only ones that are. -/
theorem toKey_inverts_ofKey :
    (∀ phrase key, toKey phrase = .ok key ↔ phraseWords phrase = Text.words (ofKey key)) ∧
    (∀ key, (Text.words (ofKey key)).length = 25 ∧ toKey (ofKey key) = .ok key) ∧
    (∀ key, ∃! list, ∃ phrase, phraseWords phrase = list ∧ toKey phrase = .ok key) ∧
    ∀ phrase key, toKey phrase = .ok key ↔ phraseWords (ofKey key) = phraseWords phrase := by
  refine ⟨?_, ?_, ?_, ?_⟩
  · intro phrase key
    rw [words_ofKey, toKey_iff_words]
  · intro key
    exact ⟨by rw [words_ofKey, length_keyWordList]; rfl, toKey_iff_words.mpr (phraseWords_ofKey key)⟩
  · intro key
    refine ⟨keyWordList key, ⟨ofKey key, phraseWords_ofKey key,
      toKey_iff_words.mpr (phraseWords_ofKey key)⟩, ?_⟩
    intro list accepted
    obtain ⟨phrase, rfl, read⟩ := accepted
    exact toKey_iff_words.mp read
  · intro phrase key
    rw [phraseWords_ofKey, toKey_iff_words, eq_comm]

end WalletTools.Ledger.Mnemonic
