import PatternServer.Data.Json
import PatternServer.Text.Split

/-!
# The host part of a URI

Which texts may stand between the two slashes and the path of a URI: brackets hold an address of
version six or a future one, with nothing but a user before them and a port behind them, and no
character may stand for a text with a delimiter in it.
-/

namespace PatternServer.Files.Host

set_option autoImplicit false

open PatternServer.Text PatternServer.Data

def isHexDigit (c : Char) : Bool := (Json.hexValue? c).isSome

/-- A number from 0 to 255 without leading zeros. -/
def isOctet (s : List Char) : Bool :=
  !s.isEmpty && s.all Char.isDigit && s.length ≤ 3 && (s == ['0'] || s.head? != some '0') &&
    s.foldl (fun n c => 10 * n + (c.toNat - '0'.toNat)) 0 ≤ 255

def isFourOctets (s : List Char) : Bool :=
  let parts := splitOn '.' s
  parts.length == 4 && parts.all isOctet

/-- A group of an address: up to four hexadecimal digits. -/
def isGroup (s : List Char) : Bool :=
  !s.isEmpty && s.length ≤ 4 && s.all isHexDigit

/-- The groups before or behind a double colon. An empty piece at the outer end is the end of the
double colon itself. -/
def sideGroups (pieces : List (List Char)) (outer : Option (List Char)) : List (List Char) :=
  if pieces.length = 1 ∧ outer = some [] then [] else pieces

/-- The groups of an address divided by colons, where one double colon may stand for groups of
zeros. -/
def isGroups (pieces : List (List Char)) : Bool :=
  let inner := (pieces.drop 1).dropLast
  match inner.countP List.isEmpty with
  | 0 => pieces.length == 8 && pieces.all isGroup
  | 1 =>
    let i := 1 + inner.findIdx List.isEmpty
    let before := sideGroups (pieces.take i) pieces.head?
    let behind := sideGroups (pieces.drop (i + 1)) pieces.getLast?
    before.length + behind.length < 8 && (before ++ behind).all isGroup
  | _ => false

/-- An address of version six, without a zone. The last two groups may be written as four octets. -/
def isAddress (s : List Char) : Bool :=
  let pieces := splitOn ':' s
  let last := pieces.getLastD []
  if pieces.length < 3 then false
  else if last.contains '.' then
    isFourOctets last && pieces.length ≤ 8 && isGroups (pieces.dropLast ++ [['0'], ['0']])
  else pieces.length ≤ 9 && isGroups pieces

/-- An address with a zone behind a percent sign. -/
def isZonedAddress (s : List Char) : Bool :=
  if s.contains '%' then
    let cut := cutAt '%' s
    !cut.2.isEmpty && !cut.2.contains '%' && isAddress cut.1
  else isAddress s

/-- An address of a version to come. -/
def isFutureAddress (s : List Char) : Bool :=
  let cut := cutAt '.' (s.drop 1)
  !cut.1.isEmpty && cut.1.all isHexDigit && !cut.2.isEmpty

/-- What may stand between brackets. -/
def isBracketed (s : List Char) : Bool :=
  if s.head? = some 'v' then isFutureAddress s else isZonedAddress s

/-- Characters that stand for texts with one of the delimiters `/ ? # @ :` in them. -/
def hiddenDelimiters : List Nat :=
  [0x2047, 0x2048, 0x2049, 0x2100, 0x2101, 0x2105, 0x2106, 0x2A74, 0xFE13, 0xFE16, 0xFE55, 0xFE56,
   0xFE5F, 0xFE6B, 0xFF03, 0xFF0F, 0xFF1A, 0xFF1F, 0xFF20]

/-- The host with its port, behind the user. -/
def behindUser (s : List Char) : List Char :=
  (splitOn '@' s).getLastD []

/-- Whether the address is rightly placed in a host part with brackets: an opening bracket comes
first, and only a port may follow the closing one. -/
def hasAddress (s : List Char) : Bool :=
  let place := behindUser s
  if place.contains '[' then
    let front := cutAt '[' place
    let inside := cutAt ']' front.2
    front.1.isEmpty && (inside.2.isEmpty || inside.2.head? == some ':') && isBracketed inside.1
  else isBracketed (cutAt ':' place).1

def isValid (s : List Char) : Bool :=
  let opened := s.contains '['
  let closed := s.contains ']'
  opened == closed && (!opened || hasAddress s) &&
    !s.any fun c => hiddenDelimiters.contains c.toNat

end PatternServer.Files.Host
