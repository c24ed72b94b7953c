import WalletTools.Encoding.Hex
import WalletTools.Node.Dialogue
import WalletTools.Radix

/-! Requests and replies as bytes of HTTP on a connection that serves one request. -/
namespace WalletTools.Node

/-- The text of a host in an address. -/
def hostText : Url.Host → String
  | .domain labels => ".".intercalate (labels.map String.ofList)
  | .plain text => String.ofList text
  | .ipv4 address => ".".intercalate ((Radix.digits 256 4 address).reverse.map toString)
  | .ipv6 pieces =>
    let digits (piece : Nat) : String := String.ofList (Nat.toDigits 16 piece)
    "[" ++ ":".intercalate (pieces.map digits) ++ "]"

/-- The bytes that stand for themselves in a query. -/
def isQueryByte (byte : UInt8) : Bool :=
  0x20 < byte && byte < 0x7f && !(Text.Utf8.encode "\"#'<>").contains byte

/-- The text of a query. -/
def queryText (query : List Char) : List Char :=
  (Text.Utf8.encode (String.ofList query)).flatMap fun byte =>
    if isQueryByte byte then [Char.ofNat byte.toNat] else Url.percentByte byte

namespace Request

variable (request : Request)

/-- What a request asks for: the path of its URL and the query. -/
def target : String :=
  let path := if request.path = "" then "/" else request.path
  path ++ ((request.url.query?.map fun query => "?" ++ String.ofList (queryText query)).getD "")

/-- The node's name in a request; the usual port is left out. -/
def authority : String :=
  let host := (request.url.host?.map hostText).getD ""
  match request.url.port? with
  | none => host
  | some 80 => host
  | some port => s!"{host}:{port}"

/-- The bytes of a request. -/
def bytes : Bytes :=
  let fields := [("Host", request.authority), ("X-Algo-API-Token", request.token), ("Accept", "*/*"),
    ("Connection", "close")] ++
    ((request.contentType?.map fun contentType => ("Content-Type", contentType)).toList) ++
    (if request.method = .post then [("Content-Length", toString request.body.length)] else [])
  let lines := s!"{request.method.name} {request.target} HTTP/1.1" ::
    fields.map fun (name, value) => s!"{name}: {value}"
  Text.Utf8.encode (String.join (lines.map (· ++ "\r\n")) ++ "\r\n") ++ request.body

end Request

namespace Reply

/-- The bytes up to the end of a line and those behind it. -/
def splitLine : Bytes → Option (Bytes × Bytes)
  | [] => none
  | [_] => none
  | 13 :: 10 :: rest => some ([], rest)
  | byte :: next :: rest => (fun (line, rest) => (byte :: line, rest)) <$> splitLine (next :: rest)

/-- The lines up to an empty one, at most `fuel` of them, and what follows. -/
def splitHead : (fuel : Nat) → Bytes → Option (List String × Bytes)
  | 0, _ => none
  | fuel + 1, bytes => do
    let (line, rest) ← splitLine bytes
    if line.isEmpty then return ([], rest)
    let (lines, rest) ← splitHead fuel rest
    return (Text.Utf8.decodeReplacing line :: lines, rest)

/-- The status in the first line of a reply. -/
def status? (line : String) : Option Nat :=
  match line.splitOn " " with
  | version :: status :: _ => if version.startsWith "HTTP/1." then status.toNat? else none
  | _ => none

/-- The value of a header field, whose name is written in lower case here. -/
def field? (name : String) (lines : List String) : Option String :=
  lines.findSome? fun line =>
    match line.splitOn ":" with
    | found :: rest =>
      if found.toLower = name then some (":".intercalate rest).trimAscii.toString else none
    | [] => none

/-- A number of hexadecimal digits. -/
def hexNumber? (digits : List Char) : Option Nat := do
  guard !digits.isEmpty
  Radix.value 16 <$> digits.reverse.mapM Hex.digitValue?

/-- A body of at most `fuel` pieces, each behind a line with its size, up to one of no size. -/
def joinChunks? : (fuel : Nat) → Bytes → Option Bytes
  | 0, _ => none
  | fuel + 1, bytes => do
    let (line, rest) ← splitLine bytes
    let size ← hexNumber? ((Text.Utf8.decodeReplacing line).toList.takeWhile Char.isAlphanum)
    if size = 0 then return []
    guard (size + 2 ≤ rest.length)
    return rest.take size ++ (← joinChunks? fuel (rest.drop (size + 2)))

/-- The body of a reply: in pieces, of a length given before, or up to the end of the connection. -/
def body? (status : Nat) (fields : List String) (ended : Bool) (bytes : Bytes) : Option Bytes :=
  if status = 204 || status = 304 then some []
  else if (field? "transfer-encoding" fields).any (·.toLower.endsWith "chunked") then
    joinChunks? bytes.length bytes
  else
    match field? "content-length" fields >>= String.toNat? with
    | some length => if length ≤ bytes.length then some (bytes.take length) else none
    | none => if ended then some bytes else none

/-- The charset that the content type of a reply names. -/
def charset (fields : List String) : Text.Charset :=
  let parameters := (((field? "content-type" fields).getD "").splitOn ";").drop 1
  let name? := parameters.findSome? fun parameter =>
    match parameter.splitOn "=" with
    | [found, value] => if found.trimAscii.toString.toLower = "charset" then some value else none
    | _ => none
  let unquoted (value : String) : String := String.ofList (value.toList.filter (· ≠ '"'))
  (name? >>= fun name => Text.Charset.named? (unquoted name).trimAscii.toString.toLower).getD .utf8

/-- The reply in the bytes that a connection has given so far, if it is whole; `ended` tells that no
bytes follow. At most `fuel` replies of no account stand before it. -/
def ofBytes? (ended : Bool) : (fuel : Nat) → Bytes → Option Reply
  | 0, _ => none
  | fuel + 1, bytes => do
    let (lines, rest) ← splitHead bytes.length bytes
    let status ← lines.head? >>= status?
    if status < 200 then ofBytes? ended fuel rest
    else
      let fields := lines.drop 1
      return .answer status (charset fields) (← body? status fields ended rest)

end Reply

end WalletTools.Node
