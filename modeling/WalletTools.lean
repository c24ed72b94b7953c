import WalletTools.Bytes
import WalletTools.Cipher.Aes
import WalletTools.CommandLine.Argument
import WalletTools.CommandLine.Grammar
import WalletTools.Curve.Ed25519
import WalletTools.Curve.Edwards
import WalletTools.Curve.Modular
import WalletTools.Curve.Secp256k1
import WalletTools.Derivation.Pbkdf2
import WalletTools.Derivation.Scrypt
import WalletTools.Digest.Hmac
import WalletTools.Digest.Keccak
import WalletTools.Digest.Sha256
import WalletTools.Digest.Sha512
import WalletTools.Encoding.Base32
import WalletTools.Encoding.Base64
import WalletTools.Encoding.Symbols
import WalletTools.Encoding.Hex
import WalletTools.Files
import WalletTools.Json.Fault
import WalletTools.Json.Numeral
import WalletTools.Json.Scanner
import WalletTools.Json.Shape
import WalletTools.Json.Tree
import WalletTools.Keystore.Document
import WalletTools.Keystore.Error
import WalletTools.Keystore.ExtractedKey
import WalletTools.Ledger.Account
import WalletTools.Ledger.Address
import WalletTools.Ledger.Capped
import WalletTools.Ledger.Error
import WalletTools.Ledger.Fee
import WalletTools.Ledger.Mnemonic
import WalletTools.Ledger.RootKey
import WalletTools.Ledger.SignedTransaction
import WalletTools.Ledger.Decoder
import WalletTools.Ledger.Transaction
import WalletTools.Ledger.WordList
import WalletTools.MessagePack.Family
import WalletTools.MessagePack.Reader
import WalletTools.MessagePack.Writer
import WalletTools.Node.Client
import WalletTools.Node.Confirmation
import WalletTools.Node.Dialogue
import WalletTools.Node.Error
import WalletTools.Node.Records
import WalletTools.Node.Settings
import WalletTools.Node.Wire
import WalletTools.Number.Double
import WalletTools.Number.Shortest
import WalletTools.Powers
import WalletTools.Radix
import WalletTools.Store.Database
import WalletTools.Store.Definition
import WalletTools.Store.Image
import WalletTools.Store.Open
import WalletTools.Store.Record
import WalletTools.Text.Blank
import WalletTools.Text.Charset
import WalletTools.Text.CodeRanges
import WalletTools.Text.Direction
import WalletTools.Text.Extender
import WalletTools.Text.Joining
import WalletTools.Text.Letters
import WalletTools.Text.LowerCase
import WalletTools.Text.Marks
import WalletTools.Text.Quoted
import WalletTools.Text.Unprintable
import WalletTools.Text.Utf8
import WalletTools.Text.Utf16
import WalletTools.Tools.Error
import WalletTools.Tools.Export
import WalletTools.Tools.Extract
import WalletTools.Tools.Options
import WalletTools.Tools.Output
import WalletTools.Tools.Run
import WalletTools.Tools.Transfer
import WalletTools.Transfer.Options
import WalletTools.Url.Domain
import WalletTools.Url.DomainForms
import WalletTools.Url.Fault
import WalletTools.Url.Host
import WalletTools.Url.Parse
import WalletTools.Url.Punycode
import WalletTools.Main
import WalletTools.Proofs.Form
import WalletTools.Proofs.MessagePack.Format
import WalletTools.Proofs.MessagePack.Integers
import WalletTools.Proofs.MessagePack.Shortest
import WalletTools.Proofs.MessagePack.Calls
import WalletTools.Proofs.Ledger.Fields
import WalletTools.Proofs.Ledger.Grammar
import WalletTools.Proofs.Ledger.RoundTrip
import WalletTools.Proofs.Except
import WalletTools.Proofs.Ledger.Canonical
import WalletTools.Proofs.Ledger.Mnemonic
import WalletTools.Proofs.Ledger.Registers
import WalletTools.Proofs.Encoding.Regrouping
import WalletTools.Proofs.Encoding.Alphabet
import WalletTools.Proofs.Encoding.Symbols
import WalletTools.Proofs.Encoding.Base32
import WalletTools.Proofs.Encoding.Base64
import WalletTools.Proofs.Ledger.Address
import WalletTools.Proofs.Url.Appended
import WalletTools.Proofs.Url.Path
import WalletTools.Proofs.Url.Directories
import WalletTools.Proofs.Url.Joined
import WalletTools.Proofs.Url.Address
import WalletTools.Proofs.Json.Integers
import WalletTools.Proofs.Text.Utf16
import WalletTools.Proofs.Node.Conversation
import WalletTools.Proofs.Node.Errand
import WalletTools.Proofs.Node.Confirmation
import WalletTools.Proofs.Node.Suggested
import WalletTools.Proofs.Tools.Itinerary
import WalletTools.Proofs.Tools.Transfer
import WalletTools.Proofs.Tools.Submission
import WalletTools.Proofs.Ledger.Identifier
import WalletTools.Proofs.Tools.Export
import WalletTools.Proofs.Tools.Milestones
import WalletTools.Proofs.Tools.Report
import WalletTools.Proofs.Curve.Group
import WalletTools.Proofs.Curve.Modular
import WalletTools.Proofs.Curve.Prime
import WalletTools.Proofs.Curve.Edwards
import WalletTools.Proofs.Curve.Compression
import WalletTools.Proofs.Curve.Ed25519
import WalletTools.Proofs.Ledger.Signing
import WalletTools.Proofs.Ledger.RootKey
import WalletTools.Proofs.Ledger.Trailing
import WalletTools.Proofs.Ledger.Cursor
import WalletTools.Proofs.Ledger.Fee
import WalletTools.Proofs.Ledger.Note
import WalletTools.Proofs.Ledger.Growth
import WalletTools.Proofs.Ledger.Refusal
import WalletTools.Proofs.Encoding.Hex
import WalletTools.Proofs.Files
import WalletTools.Proofs.Json.Grammar
import WalletTools.Proofs.Json.Steps
import WalletTools.Proofs.Json.Numerals
import WalletTools.Proofs.Json.Quoted
import WalletTools.Proofs.Json.Values
import WalletTools.Proofs.Json.Fields
import WalletTools.Proofs.Json.Records
import WalletTools.Proofs.Json.Documents
import WalletTools.Proofs.Json.Written
import WalletTools.Proofs.Json.Compact
import WalletTools.Proofs.Node.Records
import WalletTools.Proofs.Node.Settings
import WalletTools.Proofs.Node.Session
import WalletTools.Proofs.Node.Endpoints
import WalletTools.Proofs.Transfer.Options
import WalletTools.Proofs.Keystore.ExtractedKey
import WalletTools.Proofs.Tools.Extract
