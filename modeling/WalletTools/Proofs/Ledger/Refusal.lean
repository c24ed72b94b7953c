import WalletTools.Proofs.Ledger.Mnemonic

/-! Why a phrase is refused. Each phrase is a seed or is refused for one of four causes, which are looked for
in a fixed order: the number of its words, its first unknown word, a number too large for a seed, and the last
word. The causes are described here by the words and their places in the list alone. -/
namespace WalletTools.Ledger.Mnemonic

open Radix

/-! ## Numbers of words -/

/-- Twenty-five words, of which all that hold the seed are in the list. -/
structure Known (words : List String) : Prop where
  counted : words.length = 25
  listed : ∀ word ∈ words.take 24, word ∈ wordList

/-- The places in the list of the words that hold the seed. -/
def places (words : List String) : List Nat := (words.take 24).map wordList.idxOf

/-- The number of 264 bits that words hold, eleven bits each, the first word being the least significant. -/
def number (words : List String) : Nat := value 2048 (places words)

namespace Known

variable {words : List String} (known : Known words)
include known

theorem mapM_wordNumber : (words.take 24).mapM wordNumber = .ok (places words) := by
  rw [mapM_eq_ok_iff, places, List.forall₂_map_right_iff, List.forall₂_same]
  exact fun word member => wordNumber_of_mem (known.listed word member)

theorem places_lt : ∀ place ∈ places words, place < 2048 := by
  intro place member
  obtain ⟨word, taken, rfl⟩ := List.mem_map.mp member
  exact length_wordList ▸ List.idxOf_lt_length_iff.mpr (known.listed word taken)

theorem length_places : (places words).length = 24 := by
  rw [places, List.length_map, List.length_take, known.counted]
  rfl

/-- So the number of packed bytes never decides. -/
theorem length_pack_places : (pack (places words)).length = 33 := by
  rw [length_pack, known.length_places]

theorem ofBytes_pack_places : ofBytes (pack (places words)) = number words :=
  ofBytes_pack known.places_lt

/-- The number is too large for a seed exactly where the last of its words takes more than the three bits that
are left to it. -/
theorem large_iff {last : String} (stands : words[23]? = some last) :
    2 ^ 256 ≤ number words ↔ 8 ≤ wordList.idxOf last := by
  have split : places words = (words.take 23).map wordList.idxOf ++ [wordList.idxOf last] := by
    rw [places, List.take_add_one, stands, List.map_append]
    rfl
  have front : ((words.take 23).map wordList.idxOf).length = 23 := by
    rw [List.length_map, List.length_take, known.counted]
    rfl
  have below : ∀ place ∈ (words.take 23).map wordList.idxOf, place < 2048 := by
    intro place member
    exact known.places_lt place (split ▸ List.mem_append_left _ member)
  have bound := mul_le_value_iff below (wordList.idxOf last) 8
  rwa [front, ← split] at bound

/-- The last of the packed bytes is spare: it is empty unless the number is too large. -/
theorem spare_ne_zero_iff : (pack (places words)).getD 32 0 ≠ 0 ↔ 2 ^ 256 ≤ number words := by
  have whole := take_append_getD known.length_pack_places 0
  have front : ((pack (places words)).take 32).length = 32 := by
    rw [List.length_take, known.length_pack_places]
    rfl
  have zero : ((pack (places words)).getD 32 0).toNat = 0 ↔ (pack (places words)).getD 32 0 = 0 := by
    rw [← UInt8.toNat_inj, UInt8.toNat_zero]
  have bound := mul_le_ofBytes_iff ((pack (places words)).take 32) ((pack (places words)).getD 32 0) 1
  rw [front, whole, known.ofBytes_pack_places, Nat.mul_one, Nat.one_le_iff_ne_zero, ne_eq, zero] at bound
  exact bound.symm

theorem pack_places_iff {key : FixedBytes 32} :
    pack (places words) = key.toList ++ [0] ↔ ofBytes key.toList = number words := by
  constructor
  · intro packed
    rw [← known.ofBytes_pack_places, packed, ofBytes_spare]
  · intro same
    apply ofBytes_injective
    · rw [known.length_pack_places, List.length_append, key.length_toList]
      rfl
    · rw [known.ofBytes_pack_places, ofBytes_spare, same]

end Known

/-! ## Reading known words -/

/-- Once the words are known, their packed bytes and the last word decide. -/
private theorem toKey_of_known {phrase : String} (known : Known (phraseWords phrase))
    (enough : 32 ≤ (pack (places (phraseWords phrase))).length) : toKey phrase =
      if (pack (places (phraseWords phrase))).getD 32 0 ≠ 0 then .error .mnemonicKeyLength
      else if (phraseWords phrase).getD keyWords "" ≠
          checksumWord (.take 32 (pack (places (phraseWords phrase))) enough) then .error .mnemonicChecksum
      else .ok (.take 32 (pack (places (phraseWords phrase))) enough) := by
  have counted : (phraseWords phrase).length = wordCount := known.counted
  have found : ((phraseWords phrase).take keyWords).mapM wordNumber = .ok (places (phraseWords phrase)) :=
    known.mapM_wordNumber
  unfold toKey
  rw [if_neg (not_not.mpr counted), found]
  exact dif_pos known.length_pack_places

/-- A number too large for a seed is refused whatever the last word is. -/
theorem toKey_of_large {phrase : String} (known : Known (phraseWords phrase))
    (large : 2 ^ 256 ≤ number (phraseWords phrase)) : toKey phrase = .error .mnemonicKeyLength := by
  have enough : 32 ≤ (pack (places (phraseWords phrase))).length :=
    known.length_pack_places ▸ (by decide)
  rw [toKey_of_known known enough, if_pos (known.spare_ne_zero_iff.mpr large)]

/-- The number of a seed is that seed if the last word belongs to it. -/
theorem toKey_of_holds {phrase : String} {key : FixedBytes 32} (known : Known (phraseWords phrase))
    (holds : ofBytes key.toList = number (phraseWords phrase)) : toKey phrase =
      if (phraseWords phrase)[24]? = some (checksumWord key) then .ok key
      else .error .mnemonicChecksum := by
  have sized := known.length_pack_places
  have enough : 32 ≤ (pack (places (phraseWords phrase))).length := by omega
  obtain ⟨empty, taken⟩ := (spare_iff sized enough).mp (known.pack_places_iff.mpr holds)
  have last : (phraseWords phrase)[24]? = some ((phraseWords phrase).getD 24 "") := by
    have stands : 24 < (phraseWords phrase).length := known.counted ▸ (by decide)
    rw [List.getD_eq_getElem?_getD, List.getElem?_eq_getElem stands, Option.getD_some]
  rw [toKey_of_known known enough, if_neg (not_not.mpr empty), taken, ite_not, last]
  exact if_congr Option.some_inj.symm rfl rfl

/-! ## Causes -/

/-- What is made of some words: the causes of a refusal in the order in which they are looked for, and the seed
where there is none. -/
inductive Judged (words : List String) : Except Error (FixedBytes 32) → Prop
  | miscounted (counted : words.length ≠ 25) : Judged words (.error (.mnemonicLength 25 words.length))
  | unknown (counted : words.length = 25) (split : words.take 24 = before ++ text :: behind)
      (listed : ∀ earlier ∈ before, earlier ∈ wordList) (unlisted : text ∉ wordList) :
      Judged words (.error (.unknownWord text))
  | oversized (known : Known words) (stands : words[23]? = some text) (large : 8 ≤ wordList.idxOf text) :
      Judged words (.error .mnemonicKeyLength)
  | unchecked (known : Known words) (holds : ofBytes key.toList = number words)
      (other : words[24]? ≠ some (checksumWord key)) : Judged words (.error .mnemonicChecksum)
  | seed (known : Known words) (holds : ofBytes key.toList = number words)
      (checked : words[24]? = some (checksumWord key)) : Judged words (.ok key)

theorem Judged.toKey_eq {phrase : String} {outcome : Except Error (FixedBytes 32)}
    (judged : Judged (phraseWords phrase) outcome) : toKey phrase = outcome := by
  cases judged with
  | miscounted counted =>
    unfold toKey
    exact refuse_eq_error_iff.mpr (.inl ⟨counted, rfl⟩)
  | unknown counted split listed unlisted =>
    have whole : (phraseWords phrase).length = wordCount := counted
    unfold toKey
    rw [if_neg (not_not.mpr whole), bind_eq_error_iff]
    refine .inl (mapM_eq_error_iff.mpr ⟨_, _, _, split, fun earlier member => ?_, ?_⟩)
    · exact ⟨_, wordNumber_of_mem (listed earlier member)⟩
    · exact wordNumber_eq_error_iff.mpr ⟨unlisted, rfl⟩
  | oversized known stands large => exact toKey_of_large known ((known.large_iff stands).mpr large)
  | unchecked known holds other => rw [toKey_of_holds known holds, if_neg other]
  | seed known holds checked => rw [toKey_of_holds known holds, if_pos checked]

/-- Every number below the limit is that of a seed. -/
private theorem exists_holds (small : count < 2 ^ 256) : ∃ key : FixedBytes 32, ofBytes key.toList = count := by
  refine ⟨⟨toBytes 32 count, length_toBytes 32 count⟩, ?_⟩
  rw [ofBytes_toBytes]
  exact Nat.mod_eq_of_lt small

theorem exists_judged (words : List String) : ∃ outcome, Judged words outcome := by
  by_cases counted : words.length = 25
  · cases found : (words.take 24).find? (· ∉ wordList) with
    | some text =>
      obtain ⟨unlisted, before, behind, split, earlier⟩ := List.find?_eq_some_iff_append.mp found
      simp only [decide_eq_true_eq, Bool.not_eq_true', decide_eq_false_iff_not, not_not] at unlisted earlier
      exact ⟨_, .unknown counted split earlier unlisted⟩
    | none =>
      have listed := List.find?_eq_none.mp found
      simp only [decide_eq_true_eq, not_not] at listed
      have known : Known words := ⟨counted, listed⟩
      have stands : 23 < words.length := by omega
      by_cases large : 8 ≤ wordList.idxOf words[23]
      · exact ⟨_, .oversized known (List.getElem?_eq_getElem stands) large⟩
      · have small := Nat.lt_of_not_le (mt (known.large_iff (List.getElem?_eq_getElem stands)).mp large)
        obtain ⟨key, holds⟩ := exists_holds small
        by_cases checked : words[24]? = some (checksumWord key)
        · exact ⟨_, .seed known holds checked⟩
        · exact ⟨_, .unchecked known holds checked⟩
  · exact ⟨_, .miscounted counted⟩

theorem toKey_eq_iff {phrase : String} {outcome : Except Error (FixedBytes 32)} :
    toKey phrase = outcome ↔ Judged (phraseWords phrase) outcome := by
  refine ⟨fun read => ?_, Judged.toKey_eq⟩
  obtain ⟨found, judged⟩ := exists_judged (phraseWords phrase)
  rwa [← read, judged.toKey_eq]

/-- A phrase is refused for the first cause that its words give, and read as a seed where they give none. Words
that are known are always packed into thirty-three bytes, so their number alone is what can be too large. -/
theorem toKey_judged :
    (∀ phrase outcome, toKey phrase = outcome ↔ Judged (phraseWords phrase) outcome) ∧
    ∀ words numbers text, words.length = 25 → (words.take keyWords).mapM wordNumber = .ok numbers →
      words[23]? = some text →
        numbers = places words ∧ (pack numbers).length = 33 ∧
          (8 ≤ wordList.idxOf text ↔ 2 ^ 256 ≤ number words) := by
  refine ⟨fun _ _ => toKey_eq_iff, ?_⟩
  intro words numbers text counted found stands
  have listed : ∀ word ∈ words.take 24, word ∈ wordList := by
    obtain ⟨below, taken⟩ := mapM_wordNumber_eq_ok_iff.mp found
    intro word member
    obtain ⟨place, given, rfl⟩ := List.mem_map.mp (taken ▸ member)
    exact word_mem (below place given)
  have known : Known words := ⟨counted, listed⟩
  have same : numbers = places words := Except.ok.inj (found.symm.trans known.mapM_wordNumber)
  exact ⟨same, same ▸ known.length_pack_places, (known.large_iff stands).symm⟩

/-- Words of the list, of which the twenty-fourth takes all of its bits. -/
private def spareWords : List String := List.replicate 23 (word 0) ++ [word 2047, word 0]

/-- The spare bits of the twenty-fourth word are looked at before the last word is. -/
theorem toKey_judged_spare :
    spareWords.length = 25 ∧ (spareWords.take keyWords).mapM wordNumber = .ok (places spareWords) ∧
      spareWords[23]? = some (word 2047) ∧ (pack (places spareWords)).length = 33 ∧
      2 ^ 256 ≤ number spareWords ∧
      toKey (" ".intercalate spareWords) = .error .mnemonicKeyLength := by
  have listed : ∀ text ∈ spareWords, text ∈ wordList := by
    intro text member
    rcases List.mem_append.mp member with front | back
    · exact List.eq_of_mem_replicate front ▸ word_mem (by omega)
    · rcases List.mem_pair.mp back with same | same <;> exact same ▸ word_mem (by omega)
  have known : Known spareWords := ⟨rfl, fun text member => listed text (List.mem_of_mem_take member)⟩
  have large : 8 ≤ wordList.idxOf (word 2047) := by
    rw [idxOf_word (by omega)]
    omega
  have stands : spareWords[23]? = some (word 2047) := by simp [spareWords]
  have packed := toKey_judged.2 spareWords _ (word 2047) rfl known.mapM_wordNumber stands
  refine ⟨rfl, known.mapM_wordNumber, stands, packed.2.1, packed.2.2.mp large, ?_⟩
  rw [toKey_judged.1, phraseWords_intercalate listed]
  exact .oversized known stands large

end WalletTools.Ledger.Mnemonic
