import WalletTools.Ledger.Error
import WalletTools.Ledger.WordList
import WalletTools.Text.Blank
import WalletTools.Text.LowerCase

/-! Mnemonics: twenty-five words for a seed of thirty-two bytes. The seed's bits, the least
significant first, are cut into groups of eleven; each group selects a word. The last word is taken
from the seed's digest. -/
namespace WalletTools.Ledger.Mnemonic

/-- The number of words that hold the seed. -/
def keyWords : Nat := 24

/-- The number of words of a mnemonic. -/
def wordCount : Nat := keyWords + 1

/-- The bytes of numbers of eleven bits, the least significant bits first. The buffer holds the `bits`
bits that are not written yet; what remains at the end fills a byte of its own. -/
def packFrom (buffer bits : Nat) : List Nat → Bytes
  | [] => if bits = 0 then [] else [UInt8.ofNat buffer]
  | number :: rest =>
    let filled := buffer + number * 2 ^ bits
    let size := (bits + 11) / 8
    Radix.toBytes size filled ++ packFrom (filled / 256 ^ size) ((bits + 11) % 8) rest

def pack (numbers : List Nat) : Bytes := packFrom 0 0 numbers

/-- The numbers of eleven bits that bytes hold, the least significant bits first. The buffer holds the
`bits` bits that are not given out yet; what remains at the end is a number of its own. -/
def unpackFrom (buffer bits : Nat) : Bytes → List Nat
  | [] => if bits = 0 then [] else [buffer % 2048]
  | byte :: rest =>
    let filled := buffer + byte.toNat * 2 ^ bits
    if 11 ≤ bits + 8 then filled % 2048 :: unpackFrom (filled / 2048) (bits + 8 - 11) rest
    else unpackFrom filled (bits + 8) rest

def unpack (bytes : Bytes) : List Nat := unpackFrom 0 0 bytes

/-- The word for a number. -/
def word (number : Nat) : String := wordList.getD number ""

/-- The number of a word. -/
def wordNumber (word : String) : Except Error Nat :=
  match wordList.idxOf? word with
  | some number => .ok number
  | none => .error (.unknownWord word)

/-- The last word of a seed's mnemonic: eleven bits of the seed's digest. -/
def checksumWord (key : FixedBytes 32) : String :=
  word (Radix.ofBytes ((Digest.Sha512.hashHalf key.toList).toList.take 2) % 2048)

/-- The words of a seed's mnemonic. -/
def keyWordList (key : FixedBytes 32) : List String :=
  (unpack key.toList).map word ++ [checksumWord key]

/-- The mnemonic of a seed. -/
def ofKey (key : FixedBytes 32) : String := " ".intercalate (keyWordList key)

/-- The words of a phrase, in lower case. -/
def phraseWords (phrase : String) : List String := (Text.words phrase).map Text.lowerCase

/-- The seed of a phrase. The number of words is looked at first, then whether the words that hold the
seed are known, then whether they hold no more than a seed, and the checksum last. -/
def toKey (phrase : String) : Except Error (FixedBytes 32) := do
  let words := phraseWords phrase
  if words.length ≠ wordCount then throw (.mnemonicLength wordCount words.length)
  let bytes := pack (← (words.take keyWords).mapM wordNumber)
  if sized : bytes.length = 33 then
    if bytes.getD 32 0 ≠ 0 then throw .mnemonicKeyLength
    let key := FixedBytes.take 32 bytes (by omega)
    if words.getD keyWords "" ≠ checksumWord key then throw .mnemonicChecksum
    return key
  else
    throw .mnemonicKeyLength

end WalletTools.Ledger.Mnemonic
