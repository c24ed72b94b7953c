import WalletTools.Keystore.ExtractedKey
import WalletTools.Tools.Error

/-! The tool that writes the private key of a keystore: one line of hexadecimal, or nothing. -/
namespace WalletTools.Tools

def extract (file : File) (password : String) : Command Id Keystore.ExtractedKey := do
  match Keystore.extract file password with
  | .error error => throw (.keystore error)
  | .ok key =>
    writeLine key.hex
    return key

end WalletTools.Tools
