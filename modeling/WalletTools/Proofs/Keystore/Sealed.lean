import WalletTools.Proofs.Encoding.Alphabet
import WalletTools.Proofs.Encoding.Hex
import WalletTools.Proofs.Json.Compact
import WalletTools.Proofs.Keystore.ExtractedKey

/-! Sealed keystores. A private key that is encrypted into a document under a password is extracted from the
text of the document, whatever address the document names. -/
namespace WalletTools

namespace Cipher.Aes

theorem length_keyStream (key : Block) (first size : Nat) : (keyStream key first size).length = size := by
  unfold keyStream
  have whole : ((List.range ((size + 15) / 16)).flatMap fun index =>
      (encryptBlock key (counterBlock (first + index))).toList).length = (size + 15) / 16 * 16 := by
    simp [List.length_flatMap]
  rw [List.length_take, whole]
  omega

theorem zipWith_xor_xor {text stream : Bytes} (enough : text.length ≤ stream.length) :
    List.zipWith (· ^^^ ·) (List.zipWith (· ^^^ ·) text stream) stream = text := by
  induction text generalizing stream with
  | nil => rfl
  | cons byte text ih =>
    obtain _ | ⟨mask, stream⟩ := stream
    · cases enough
    · have back : byte ^^^ mask ^^^ mask = byte := by rw [UInt8.xor_assoc, UInt8.xor_self, UInt8.xor_zero]
      rw [List.zipWith_cons_cons, List.zipWith_cons_cons, back, ih (Nat.le_of_succ_le_succ enough)]

theorem length_applyCounter (key start : FixedBytes 16) (text : Bytes) :
    (applyCounter key start text).length = text.length := by
  unfold applyCounter
  rw [List.length_zipWith, length_keyStream, Nat.min_self]

/-- The cipher applied twice gives the text back. -/
theorem applyCounter_applyCounter (key start : FixedBytes 16) (text : Bytes) :
    applyCounter key start (applyCounter key start text) = text := by
  have size := length_applyCounter key start text
  unfold applyCounter at size ⊢
  dsimp only at size ⊢
  rw [size]
  exact zipWith_xor_xor (Nat.le_of_eq (length_keyStream _ _ _).symm)

end Cipher.Aes

namespace Derivation.Pbkdf2

theorem length_chain (key : Digest.Hmac.Key) (count : Nat) (last sum : Bytes) (size : sum.length = 32) :
    (chain key count last sum).length = 32 := by
  induction count generalizing last sum with
  | zero => exact size
  | succ count ih =>
    refine ih _ _ ?_
    rw [List.length_zipWith, size, FixedBytes.length_toList, Nat.min_self]

theorem length_derive (password salt : Bytes) (rounds size : Nat) :
    (derive password salt rounds size).length = size := by
  have block (number : Nat) : (block (.ofBytes password) salt rounds number).length = 32 :=
    length_chain _ _ _ _ (FixedBytes.length_toList _)
  have whole : ((List.range ((size + 31) / 32)).flatMap fun index =>
      Pbkdf2.block (.ofBytes password) salt rounds (index + 1)).length = (size + 31) / 32 * 32 := by
    simp [List.length_flatMap, block]
  unfold derive
  rw [List.length_take, whole]
  omega

end Derivation.Pbkdf2

namespace Keystore

/-! ## Documents -/

/-- The document that holds bytes, encrypted under one half of a derived key and guarded by the other. -/
def Document.seal (derivation : DerivationParams) (cipherKey guard start : FixedBytes 16)
    (content : Bytes) : Document :=
  let ciphertext := Cipher.Aes.applyCounter cipherKey start content
  ⟨start.toList, ciphertext, derivation, (Digest.Keccak.hash (guard.toList ++ ciphertext)).toList⟩

theorem decrypt_seal {derivation : DerivationParams} {password derived : Bytes}
    {cipherKey guard : FixedBytes 16} (derives : derivation.derive password = .ok derived)
    (front : sixteen? derived = some cipherKey) (back : sixteen? (derived.drop 16) = some guard)
    (start : FixedBytes 16) (content : Bytes) :
    (Document.seal derivation cipherKey guard start content).decrypt password = .ok content := by
  have whole : sixteen? start.toList = some start :=
    FixedBytes.ofList?_eq_some_iff.mpr (List.take_of_length_le (Nat.le_of_eq start.length_toList))
  unfold Document.decrypt Document.seal
  dsimp only
  rw [derives]
  dsimp only [bind, Except.bind, Except.mapError]
  rw [front, back]
  dsimp only
  rw [if_neg (not_not_intro rfl), whole]
  dsimp only
  rw [Cipher.Aes.applyCounter_applyCounter]
  rfl

/-! ## Texts -/

/-- A whole number. -/
def count (number : Nat) : Json := .number (.integer number)

/-- Bytes in hexadecimal. -/
def digits (bytes : Bytes) : Json := .text (Hex.encode bytes)

def DerivationParams.toJson : DerivationParams → Json
  | .pbkdf2 rounds size salt => .object [("c", count rounds), ("dklen", count size),
      ("prf", .text "hmac-sha256"), ("salt", digits salt)]
  | .scrypt size cost lanes blockFactor salt => .object [("dklen", count size), ("n", count cost),
      ("p", count lanes), ("r", count blockFactor), ("salt", digits salt)]

def DerivationParams.name : DerivationParams → String
  | .pbkdf2 .. => "pbkdf2"
  | .scrypt .. => "scrypt"

/-- The numbers of a derivation are not larger than they can be told. -/
def DerivationParams.Fits : DerivationParams → Prop
  | .pbkdf2 rounds size _ => rounds < 2 ^ 32 ∧ size < 2 ^ 8
  | .scrypt size cost lanes blockFactor _ =>
    size < 2 ^ 8 ∧ cost < 2 ^ 32 ∧ lanes < 2 ^ 32 ∧ blockFactor < 2 ^ 32

/-- The encrypted part of a document. -/
def Document.crypto (document : Document) : Json :=
  .object [("cipher", .text "aes-128-ctr"),
    ("cipherparams", .object [("iv", digits document.startBlock)]),
    ("ciphertext", digits document.ciphertext), ("kdf", .text document.derivation.name),
    ("kdfparams", document.derivation.toJson), ("mac", digits document.mac)]

/-- The members of a document. -/
def Document.members (document : Document) : List (String × Json) :=
  [("crypto", document.crypto), ("id", .text "00000000000000000000000000000000"), ("version", count 3)]

/-- The value of a document that may name an address. -/
def Document.toJson (document : Document) (named? : Option String) : Json :=
  .object ((named?.map fun named => ("address", Json.text named)).toList ++ document.members)

def Document.text (document : Document) (named? : Option String) : String :=
  (document.toJson named?).compact

/-- The members of a document and the texts of their values. -/
def Document.pieces (document : Document) : List (String × List Char) :=
  document.members.map fun member => (member.1, member.2.chars)

/-- The text of a document that gives any text as its address. -/
def Document.textWith (document : Document) (address : List Char) : String :=
  String.ofList (Json.enclose '{' '}' ((("address", address) :: document.pieces).map fun member =>
    Json.memberText member.1 member.2))

theorem bytes?_digits (bytes : Bytes) : bytes? (digits bytes) = some bytes := Hex.decode?_encode bytes

theorem numberBelow?_count {limit number : Nat} (small : number < limit) (held : limit ≤ 2 ^ 64) :
    numberBelow? limit (count number) = some number := by
  have same : number % 2 ^ 64 = number := Nat.mod_eq_of_lt (by omega)
  simp [numberBelow?, count, Json.natural?, Json.Number.natural?, same, small]

theorem DerivationParams.ofJson?_toJson {derivation : DerivationParams} (fits : derivation.Fits) :
    DerivationParams.ofJson? derivation.toJson = some derivation := by
  cases derivation with
  | pbkdf2 rounds size salt =>
    obtain ⟨first, second⟩ := fits
    simp [DerivationParams.ofJson?, toJson, onlyMember?, numberBelow?_count first,
      numberBelow?_count second, bytes?_digits, Json.text?]
  | scrypt size cost lanes blockFactor salt =>
    obtain ⟨first, second, third, fourth⟩ := fits
    simp [DerivationParams.ofJson?, toJson, onlyMember?, numberBelow?_count first,
      numberBelow?_count second, numberBelow?_count third, numberBelow?_count fourth, bytes?_digits]

theorem Document.ofCrypto?_crypto {document : Document} (fits : document.derivation.Fits) :
    Document.ofCrypto? document.crypto = some document := by
  have named : isDerivationName (.text document.derivation.name) = true := by
    cases document.derivation <;> rfl
  simp [Document.ofCrypto?, Document.crypto, recordValues?, onlyMember?, bytes?_digits, Json.text?, named,
    DerivationParams.ofJson?_toJson fits]

theorem Document.ofJson?_toJson {document : Document} (fits : document.derivation.Fits)
    (named? : Option String) : Document.ofJson? (document.toJson named?) = some document := by
  have identified : isIdentifier "00000000000000000000000000000000" = true := by decide +kernel
  have version : numberBelow? (2 ^ 8) (count 3) = some 3 := numberBelow?_count (by decide) (by decide)
  cases named? <;> simp [Document.ofJson?, Document.toJson, Document.members, recordValues?, onlyMember?,
    Document.ofCrypto?_crypto fits, Json.text?, identified, version]

theorem Document.declaredAddress?_toJson (document : Document) (named? : Option String) :
    declaredAddress? (document.toJson named?) = named? >>= Address.parse? := by
  cases named? with
  | none => rfl
  | some named =>
    have held : ((document.toJson (some named)).member? "address" >>= Json.text?) = some named := rfl
    unfold declaredAddress?
    rw [held, Option.bind_eq_bind, Option.bind_some, Option.bind_some]
    unfold Address.parse
    cases Address.parse? named <;> rfl

theorem orderly_digits {levels : Nat} (bytes : Bytes) : Json.Orderly levels (digits bytes) := .text _

theorem orderly_count {levels number : Nat} (small : number < 2 ^ 64) :
    Json.Orderly levels (count number) := by
  have orderly : Json.Orderly levels _ := .count (UInt64.ofNat number)
  rwa [UInt64.toNat_ofNat', Nat.mod_eq_of_lt small] at orderly

theorem DerivationParams.orderly_toJson {levels : Nat} {derivation : DerivationParams}
    (fits : derivation.Fits) : Json.Orderly (levels + 1) derivation.toJson := by
  have small {limit number : Nat} (below : number < limit) (held : limit ≤ 2 ^ 64) :
      Json.Orderly levels (count number) := orderly_count (Nat.lt_of_lt_of_le below held)
  cases derivation with
  | pbkdf2 rounds size salt =>
    obtain ⟨first, second⟩ := fits
    have ordered : ["c", "dklen", "prf", "salt"].Pairwise (· < ·) := by decide
    refine .object ordered ?_
    simp only [List.forall_mem_cons]
    exact ⟨small first (by decide), small second (by decide), .text _, orderly_digits salt, nofun⟩
  | scrypt size cost lanes blockFactor salt =>
    obtain ⟨first, second, third, fourth⟩ := fits
    have ordered : ["dklen", "n", "p", "r", "salt"].Pairwise (· < ·) := by decide
    refine .object ordered ?_
    simp only [List.forall_mem_cons]
    exact ⟨small first (by decide), small second (by decide), small third (by decide),
      small fourth (by decide), orderly_digits salt, nofun⟩

theorem Document.orderly_crypto {levels : Nat} {document : Document} (fits : document.derivation.Fits) :
    Json.Orderly (levels + 2) document.crypto := by
  have start : Json.Orderly (levels + 1) (.object [("iv", digits document.startBlock)]) :=
    .object (List.pairwise_singleton _ _) (by simpa using orderly_digits document.startBlock)
  have ordered : ["cipher", "cipherparams", "ciphertext", "kdf", "kdfparams", "mac"].Pairwise (· < ·) := by
    decide
  refine .object ordered ?_
  simp only [List.forall_mem_cons]
  exact ⟨.text _, start, orderly_digits _, .text _, DerivationParams.orderly_toJson fits,
    orderly_digits _, nofun⟩

theorem Document.orderly_members {document : Document} (fits : document.derivation.Fits) :
    ∀ member ∈ document.members, Json.Orderly 126 member.2 := by
  unfold Document.members
  simp only [List.forall_mem_cons]
  exact ⟨Document.orderly_crypto fits, .text _, orderly_count (by decide), nofun⟩

theorem Document.orderly_toJson {document : Document} (fits : document.derivation.Fits)
    (named? : Option String) : Json.Orderly Json.deepest (document.toJson named?) := by
  have ordered : ["address", "crypto", "id", "version"].Pairwise (· < ·) := by decide
  have each := Document.orderly_members fits
  cases named? with
  | none => exact .object (List.pairwise_cons.mp ordered).2 each
  | some named => exact .object ordered (List.forall_mem_cons.mpr ⟨.text named, each⟩)

/-- A text that gives no address and one that does are objects with the same other members. -/
theorem Document.objectText_text {document : Document} (fits : document.derivation.Fits) :
    Json.ObjectText document.pieces (document.text none) ∧ ∀ address, Json.WellFormed address →
      Json.ObjectText (("address", address) :: document.pieces) (document.textWith address) := by
  have each : ∀ member ∈ document.pieces, Json.WellFormed member.2 := by
    intro member known
    obtain ⟨given, held, rfl⟩ := List.mem_map.mp known
    exact (Document.orderly_members fits given held).valueText.wellFormed
  constructor
  · have ordered : ["crypto", "id", "version"].Pairwise (· < ·) := by decide
    have chars : (document.toJson none).chars = Json.enclose '{' '}'
        (document.pieces.map fun member => Json.memberText member.1 member.2) := Json.chars_object ordered
    unfold Document.text Json.compact
    rw [chars]
    exact Json.objectText_enclose _ each
  · intro address written
    exact Json.objectText_enclose _ (List.forall_mem_cons.mpr ⟨written, each⟩)

/-- A document is not read where its address cannot be kept. -/
theorem Document.parse_textWith_ne {document : Document} {address : List Char}
    (unread : ∀ rest, Json.Unread (address ++ rest)) (json : Json) :
    Json.parse (document.textWith address) ≠ .ok json := by
  obtain ⟨tail, begun⟩ := Json.exists_enclose '{' '}' (Json.memberText "address" address)
    (document.pieces.map fun member => Json.memberText member.1 member.2)
  have same : Json.memberText "address" address ++ tail = Json.memberText "address" (address ++ tail) :=
    List.append_assoc _ _ _
  unfold Document.textWith
  rw [List.map_cons, begun, same]
  exact Json.parse_ne_of_unread (unread tail) "address" json

/-! ## Addresses -/

/-- An address is read back from its text. -/
theorem Address.parse?_toText (address : Address) : Address.parse? address.toText = some address := by
  have plain {char : Char} (known : char ∈ (Hex.encode address.toList).toList) :
      char ≠ 'x' ∧ isGap char = false := by
    have each : (Hex.lowerDigits.all fun char => decide (char ≠ 'x' ∧ isGap char = false)) = true := by
      decide
    exact of_decide_eq_true (List.all_eq_true.mp each char (Hex.mem_lowerDigits_of_mem_encode known))
  have dropped : dropMarks address.toText.toList = (Hex.encode address.toList).toList := by
    change dropMarks ("0x" ++ Hex.encode address.toList).toList = _
    rw [String.toList_append]
    change dropMarks (Hex.encode address.toList).toList = _
    unfold dropMarks
    split
    · rename_i same
      exact absurd rfl (plain (by rw [same]; simp)).1
    · rfl
  have kept : (Hex.encode address.toList).toList.filter (fun char => !isGap char) =
      (Hex.encode address.toList).toList :=
    List.filter_eq_self.mpr fun char known => by rw [(plain known).2]; rfl
  unfold Address.parse?
  rw [dropped, kept]
  change (Hex.decode? _).bind _ = _
  rw [Hex.decode?_encode]
  exact FixedBytes.ofList?_toList address

/-! ## Keys -/

/-- The private keys are the numbers above zero and below the order of the group. -/
theorem exists_addressOf?_iff {privateKey : FixedBytes 32} :
    (∃ address, addressOf? privateKey = some address) ↔ 0 < Radix.ofBytes privateKey.toList.reverse ∧
      Radix.ofBytes privateKey.toList.reverse < Curve.Secp256k1.order := by
  have taken (digest : FixedBytes 32) : ∃ address : Address,
      FixedBytes.ofList? (digest.toList.drop 12) = some address := by
    have size : (digest.toList.drop 12).length = 20 := by rw [List.length_drop, digest.length_toList]
    exact ⟨⟨_, size⟩, FixedBytes.ofList?_eq_some_iff.mpr rfl⟩
  unfold addressOf? Curve.Secp256k1.publicKey? Curve.Secp256k1.privateNumber?
  dsimp only
  split
  · exact iff_of_true (taken (Digest.Keccak.hash (Curve.Secp256k1.Point.toBytes _))) ‹_›
  · exact iff_of_false nofun ‹_›

/-- The document that holds a private key under a password. -/
def sealKey (password : String) (rounds : Nat) (salt : Bytes) (start : FixedBytes 16)
    (privateKey : FixedBytes 32) : Document :=
  let derived := Derivation.Pbkdf2.derive (Text.Utf8.encode password) salt rounds 32
  have size : derived.length = 32 := Derivation.Pbkdf2.length_derive _ _ _ _
  Document.seal (.pbkdf2 rounds 32 salt) (.take 16 derived (by omega))
    (.take 16 (derived.drop 16) (by simp [size])) start privateKey.toList

theorem recover_sealKey {privateKey : FixedBytes 32} {address : Address}
    (known : addressOf? privateKey = some address) (password : String) (rounds : Nat) (salt : Bytes)
    (start : FixedBytes 16) :
    recover (some (sealKey password rounds salt start privateKey)) password = .ok (privateKey, address) := by
  have found : (sealKey password rounds salt start privateKey).decrypt (Text.Utf8.encode password) =
      .ok privateKey.toList := by
    refine decrypt_seal rfl ?_ ?_ start privateKey.toList
    · exact FixedBytes.ofList?_eq_some_iff.mpr rfl
    · exact FixedBytes.ofList?_eq_some_iff.mpr rfl
  unfold recover
  dsimp only
  rw [found]
  dsimp only [bind, Except.bind]
  rw [FixedBytes.ofList?_toList]
  dsimp only
  rw [known]
  rfl

/-- A private key is extracted from every document that holds it, beside the address that is named. -/
theorem extract_sealKey {privateKey : FixedBytes 32} {address : Address}
    (known : addressOf? privateKey = some address) (password : String) {rounds : Nat}
    (small : rounds < 2 ^ 32) (salt : Bytes) (start : FixedBytes 16) (named? : Option String) :
    extract (.ok (Text.Utf8.encode ((sealKey password rounds salt start privateKey).text named?))) password =
      .ok ⟨privateKey, address, named? >>= Address.parse?⟩ := by
  have fits : (sealKey password rounds salt start privateKey).derivation.Fits := ⟨small, by decide⟩
  refine extract_eq_ok_iff.mpr ⟨_, _, rfl, Json.parse_compact (Document.orderly_toJson fits named?), ?_,
    (Document.declaredAddress?_toJson _ named?).symm⟩
  rw [Document.ofJson?_toJson fits]
  exact recover_sealKey known password rounds salt start

end Keystore

end WalletTools
