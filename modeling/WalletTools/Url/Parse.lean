import WalletTools.Url.Host

/-! URLs: their parts, and reading them from a text. Blanks and controls around the text are dropped,
and so are tabs and line ends in it. -/
namespace WalletTools

/-- The path of a URL: segments from a root, or a text that nothing can be appended to. -/
inductive Url.Path
  | rooted (segments : List (List Char))
  | bare (text : List Char)
deriving DecidableEq, Repr

structure Url where
  scheme : String
  host? : Option Url.Host
  port? : Option Nat
  path : Url.Path
  query? : Option (List Char)
  fragment? : Option (List Char)
deriving DecidableEq, Repr

namespace Url

/-- The schemes whose URLs name a host of the network. -/
inductive SchemeKind
  | network
  | file
  | other
deriving DecidableEq, Repr

def SchemeKind.of (scheme : String) : SchemeKind :=
  if scheme = "file" then .file
  else if ["http", "https", "ws", "wss", "ftp"].contains scheme then .network
  else .other

/-- Whether a backslash is as good as a slash. -/
def SchemeKind.special (kind : SchemeKind) : Bool := kind ≠ .other

def SchemeKind.isSlash (kind : SchemeKind) (char : Char) : Bool :=
  char = '/' || (char = '\\' && kind.special)

/-- Whether a character ends the authority. -/
def SchemeKind.endsAuthority (kind : SchemeKind) (char : Char) : Bool :=
  kind.isSlash char || char = '?' || char = '#'

/-! ## Text -/

/-- The characters that are dropped around a URL. -/
def isMargin (char : Char) : Bool := char.toNat ≤ 0x20

/-- The characters that are dropped anywhere in a URL. -/
def isBreak (char : Char) : Bool := char = '\t' || char = '\n' || char = '\r'

/-- A text without what is dropped from it. -/
def clean (text : String) : List Char :=
  let chars := text.toList.dropWhile isMargin
  (chars.reverse.dropWhile isMargin).reverse.filter fun char => !isBreak char

/-- The scheme in front of a colon, in lower case, and what follows the colon. -/
def splitScheme (text : List Char) : Option (String × List Char) :=
  let isSchemeChar (char : Char) : Bool :=
    char.isAlphanum || char = '+' || char = '-' || char = '.'
  if text.head?.any Char.isAlpha then
    match text.dropWhile isSchemeChar with
    | ':' :: rest => some (String.ofList ((text.takeWhile isSchemeChar).map Char.toLower), rest)
    | _ => none
  else none

/-! ## Paths -/

/-- The hexadecimal form of a byte behind a percent sign. -/
def percentByte (byte : UInt8) : List Char :=
  ['%', (Nat.digitChar (byte.toNat / 16)).toUpper, (Nat.digitChar (byte.toNat % 16)).toUpper]

/-- A character as it stands in a path. -/
def pathChar (char : Char) : List Char :=
  if char.toNat ≤ 0x20 || 0x7f ≤ char.toNat || "\"#<>?\x60\x7b\x7d".toList.contains char then
    (Text.Utf8.encode (String.ofList [char])).flatMap percentByte
  else [char]

/-- Whether a segment stands for its directory. -/
def isSelf (segment : List Char) : Bool :=
  [".", "%2e"].contains (String.ofList (segment.map Char.toLower))

/-- Whether a segment stands for the directory above. -/
def isParent (segment : List Char) : Bool :=
  ["..", ".%2e", "%2e.", "%2e%2e"].contains (String.ofList (segment.map Char.toLower))

/-- The parts of a path between slashes. -/
def splitSegments (kind : SchemeKind) : List Char → List (List Char)
  | [] => [[]]
  | char :: rest =>
    match splitSegments kind rest with
    | [] => [[char]]
    | segment :: more =>
      if kind.isSlash char then [] :: segment :: more else (char :: segment) :: more

/-- Appends segments to others, those that stand for directories being resolved. -/
def resolve (before : List (List Char)) : List (List Char) → List (List Char)
  | [] => before
  | segment :: rest =>
    if isParent segment then
      resolve (before.dropLast ++ if rest.isEmpty then [[]] else []) rest
    else if isSelf segment then
      resolve (before ++ if rest.isEmpty then [[]] else []) rest
    else resolve (before ++ [segment.flatMap pathChar]) rest

/-- The segments of a path; its first slash need not be written. -/
def Path.parse (kind : SchemeKind) (text : List Char) : Path :=
  match text with
  | [] => .rooted (if kind.special then [[]] else [])
  | first :: rest =>
    .rooted (resolve [] (splitSegments kind (if kind.isSlash first then rest else text)))

/-- The text of a path. -/
def Path.text : Path → List Char
  | .rooted segments => segments.flatMap fun segment => '/' :: segment
  | .bare text => text

/-- A text up to its query, its query and its fragment. -/
def splitTail (text : List Char) : List Char × Option (List Char) × Option (List Char) :=
  let fragment? := match text.dropWhile (· ≠ '#') with
    | [] => none
    | _ :: fragment => some fragment
  let text := text.takeWhile (· ≠ '#')
  let query? := match text.dropWhile (· ≠ '?') with
    | [] => none
    | _ :: query => some query
  (text.takeWhile (· ≠ '?'), query?, fragment?)

/-! ## Authorities -/

/-- The name and the password in front of the last at sign, and what follows it. Nothing may stand in
front of the sign only where a host or the end of the text follows. -/
def splitUser (authority : List Char) (ended : Bool) : Except Fault (List Char × List Char) :=
  if authority.contains '@' then
    let host := (authority.reverse.takeWhile (· ≠ '@')).reverse
    let user := authority.take (authority.length - host.length - 1)
    if user.isEmpty && host.isEmpty && ended then .error .emptyHost else .ok (user, host)
  else .ok ([], authority)

/-- The host and what follows the colon behind it; a colon between brackets is the host's. -/
def splitPort (inside : Bool) : List Char → List Char × Option (List Char)
  | [] => ([], none)
  | char :: rest =>
    if char = ':' && !inside then ([], some rest)
    else
      let (host, port?) := splitPort (if char = '[' then true else if char = ']' then false else inside) rest
      (char :: host, port?)

/-- A port: digits below `2 ^ 16`, or nothing. -/
def parsePort (digits : List Char) : Except Fault (Option Nat) :=
  let number := digits.foldl (fun number digit => min (2 ^ 16) (10 * number + (digit.toNat - '0'.toNat))) 0
  if !digits.all Char.isDigit || 2 ^ 16 ≤ number then .error .port
  else .ok (if digits.isEmpty then none else some number)

/-- Whether a user leaves a trace: a colon alone does not. -/
def hasUser (user : List Char) : Bool := user ≠ [] && user ≠ [':']

/-- The host and the port of an authority, and what a backslash behind the port leaves to the path. A
host that may be empty stands without port and user if it is. -/
def parseAuthority (kind : SchemeKind) (authority : List Char) (ended : Bool) :
    Except Fault (Host × Option Nat × List Char) := do
  let (user, rest) ← splitUser authority ended
  let (text, port?) := splitPort false rest
  if kind.special && text.isEmpty then throw .emptyHost
  let host ← if kind.special then Host.parse text else Host.parsePlain text
  if text.isEmpty && port?.isSome then throw .emptyHost
  let behind := port?.getD []
  let port ← parsePort (behind.takeWhile (· ≠ '\\'))
  if text.isEmpty && hasUser user then throw .emptyHost
  return (host, port, behind.dropWhile (· ≠ '\\'))

/-! ## URLs -/

/-- A URL whose authority stands at the start of a text. -/
def parseHosted (scheme : String) (kind : SchemeKind) (text : List Char) : Except Fault Url := do
  let authority := text.takeWhile fun char => !kind.endsAuthority char
  let rest := text.dropWhile fun char => !kind.endsAuthority char
  let (host, port?, behind) ← parseAuthority kind authority (!rest.isEmpty)
  let (path, query?, fragment?) := splitTail (behind ++ rest)
  return ⟨scheme, some host, port?, .parse kind path, query?, fragment?⟩

/-- Whether a text is the letter of a drive with its mark. -/
def isDrive (text : List Char) : Bool :=
  match text with
  | [letter, mark] => letter.isAlpha && (mark = ':' || mark = '|')
  | _ => false

/-- A URL of a file, which may name a host. -/
def parseFile (text : List Char) : Except Fault Url := do
  let kind := SchemeKind.file
  let (host?, rest) ← match text with
    | first :: second :: rest =>
      if kind.isSlash first && kind.isSlash second then
        let authority := rest.takeWhile fun char => !kind.endsAuthority char
        if isDrive authority then pure (none, rest)
        else if authority.isEmpty then pure (none, rest.drop authority.length)
        else pure (some (← Host.parse authority), rest.drop authority.length)
      else pure (none, text)
    | _ => pure (none, text)
  let (path, query?, fragment?) := splitTail rest
  return ⟨"file", host?, none, .parse kind path, query?, fragment?⟩

/-- A URL of a scheme that names no host of the network. -/
def parseOther (scheme : String) (text : List Char) : Except Fault Url :=
  match text with
  | '/' :: '/' :: rest => parseHosted scheme .other rest
  | _ =>
    let (path, query?, fragment?) := splitTail text
    let path := match path with
      | '/' :: _ => Path.parse .other path
      | _ => .bare path
    .ok ⟨scheme, none, none, path, query?, fragment?⟩

/-- The URL that a text writes. -/
def parse (text : String) : Except Fault Url :=
  match splitScheme (clean text) with
  | none => .error .relative
  | some (scheme, rest) =>
    match SchemeKind.of scheme with
    | .network => parseHosted scheme .network (rest.dropWhile (SchemeKind.network.isSlash ·))
    | .file => parseFile rest
    | .other => parseOther scheme rest

/-- Whether paths can be appended. -/
def isBase (url : Url) : Bool :=
  match url.path with
  | .rooted _ => true
  | .bare _ => false

end Url

end WalletTools
