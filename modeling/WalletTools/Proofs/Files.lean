import WalletTools.Files
import WalletTools.Proofs.Except

/-! Files as text. -/
namespace WalletTools.File

/-- A file is read as the text that its bytes write. -/
theorem text_eq_ok_iff {file : File} {text : String} :
    file.text = .ok text ↔ file = .ok (Text.Utf8.encode text) := by
  unfold File.text
  rw [bind_eq_ok_iff]
  constructor
  · intro read
    obtain ⟨bytes, rfl, decoded⟩ := read
    rw [Text.Utf8.decode_eq_ok_iff.mp (mapError_eq_ok_iff.mp decoded)]
  · rintro rfl
    exact ⟨_, rfl, mapError_eq_ok_iff.mpr (Text.Utf8.decode_encode text)⟩

theorem text_encode (text : String) : File.text (.ok (Text.Utf8.encode text)) = .ok text :=
  text_eq_ok_iff.mpr rfl

end WalletTools.File
