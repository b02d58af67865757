import PatternServer.Files.Host
import PatternServer.Files.Path
import PatternServer.Text.Lower
import PatternServer.Text.Utf8

/-!
# URIs

Percent escapes, and the file that a URI names. As the name of a place a `file` URI means the path
in it, and any other text is itself a path; as the name of a document every URI means the path in
it.
-/

namespace PatternServer.Files.Uri

set_option autoImplicit false

open PatternServer.Text PatternServer.Data

/-- The bytes of an ASCII text. Two hexadecimal digits behind a percent sign are one byte. -/
def percentBytes : List Char → List UInt8
  | '%' :: a :: b :: rest =>
    match Json.hexValue? a, Json.hexValue? b with
    | some x, some y => UInt8.ofNat (16 * x + y) :: percentBytes rest
    | _, _ => UInt8.ofNat '%'.toNat :: percentBytes (a :: b :: rest)
  | c :: rest => UInt8.ofNat c.toNat :: percentBytes rest
  | [] => []

def isAscii (c : Char) : Bool := c.toNat < 128

/-- Undoes percent escapes. What they spell is read as UTF-8 within each run of ASCII characters,
and other characters stay as they are. The fuel is the length of the text. -/
def decodeRuns : (fuel : Nat) → List Char → List Char
  | 0, s => s
  | fuel + 1, s =>
    match s with
    | [] => []
    | c :: rest =>
      if isAscii c then
        Utf8.decodeReplacing (percentBytes (s.takeWhile isAscii)) ++
          decodeRuns fuel (s.dropWhile isAscii)
      else c :: decodeRuns fuel rest

def percentDecode (s : List Char) : List Char :=
  decodeRuns s.length s

def isSchemeChar (c : Char) : Bool :=
  c.isAlphanum || c == '+' || c == '-' || c == '.'

/-- The scheme in lower case, if there is one, and what follows it. -/
def takeScheme (s : List Char) : List Char × List Char :=
  let front := s.takeWhile (· ≠ ':')
  if front.length < s.length && (front.head?.any Char.isAlpha) && front.all isSchemeChar then
    (front.map Char.toLower, s.drop (front.length + 1))
  else ([], s)

/-- Blanks and control characters in front do not count, line ends and tabs nowhere. -/
def clean (s : List Char) : List Char :=
  (s.dropWhile fun c => c.toNat ≤ 32).filter fun c => c != '\t' && c != '\r' && c != '\n'

/-- The host part, if there is one, and what follows it. -/
def takeHost (s : List Char) : List Char × List Char :=
  match s with
  | '/' :: '/' :: rest =>
    let isHostChar (c : Char) : Bool := c != '/' && c != '?' && c != '#'
    (rest.takeWhile isHostChar, rest.dropWhile isHostChar)
  | _ => ([], s)

/-- The parts of a URI that tell which file it names. -/
structure Parts where
  /-- In lower case; empty if there is none. -/
  scheme : List Char
  host : List Char
  /-- Everything behind the host part up to a question mark or a hash. -/
  path : List Char
deriving Repr, DecidableEq, Inhabited

/-- The parts of a URI, unless its host part is ill-formed. -/
def parts? (uri : List Char) : Option Parts :=
  let (scheme, rest) := takeScheme (clean uri)
  let (host, rest) := takeHost rest
  if Host.isValid host then
    some ⟨scheme, host, rest.takeWhile fun c => c != '#' && c != '?'⟩
  else none

/-- The schemes whose paths may end in parameters. -/
def parameterSchemes : List String :=
  ["", "ftp", "hdl", "prospero", "http", "imap", "https", "shttp", "rtsp", "rtsps", "rtspu", "sip",
   "sips", "mms", "sftp", "tel"]

/-- A path without the parameters that a semicolon in its last piece begins. -/
def dropParameters (path : List Char) : List Char :=
  let pieces := splitOn '/' path
  joinWith ['/'] (pieces.dropLast ++ [(cutAt ';' (pieces.getLastD [])).1])

/-- Whether a path begins with a slash, a letter and a colon, as that of a drive does. -/
def isDrivePath : List Char → Bool
  | '/' :: letter :: ':' :: _ => letter.isAlpha
  | _ => false

/-- The file in which the text of a document lies, unless the host part of its URI is ill-formed.
Here every URI names a file, whatever its scheme. A `file` URI with a host names a share. -/
def documentPath? (uri : List Char) : Option Path :=
  (parts? uri).map fun u =>
    let takesParameters := parameterSchemes.contains (String.ofList u.scheme)
    let path := percentDecode (if takesParameters then dropParameters u.path else u.path)
    let host := percentDecode u.host
    if u.scheme = "file".toList ∧ host ≠ [] ∧ path ≠ [] then
      Path.ofChars ('/' :: '/' :: host ++ path)
    else if isDrivePath path then
      Path.ofChars ((path.drop 1).take 1 |>.map Char.toLower |>.append (path.drop 2))
    else Path.ofChars path

end PatternServer.Files.Uri
