import PatternServer.Text.Blank

/-!
# String literals of the host language

Two ways of finding the quoted literals of a document: all of them from the front, and the one
around an offset. The first knows escapes and lets a literal run over line ends; the second looks
only at the line around the offset and takes a quote behind a backslash for escaped.
-/

namespace PatternServer.Document

set_option autoImplicit false

/-- A quoted literal: what stands between its quotes, where that begins, and the quote. -/
structure Literal where
  body : List Char
  start : Nat
  quote : Char
deriving Repr, DecidableEq, Inhabited

/-- The offset of the closing quote. -/
def Literal.stop (l : Literal) : Nat :=
  l.start + l.body.length

/-- An offset behind the end of the text. -/
inductive ScanError where
  | outOfRange
deriving Repr, DecidableEq, Inhabited

def isQuote (c : Char) : Bool :=
  c == '\'' || c == '"'

/-- The length of the body that runs from here to the closing quote `q`. A backslash takes the next
character with it, whatever that is. -/
def bodyLength? (q : Char) : List Char → Option Nat
  | [] => none
  | c :: rest =>
    if c = '\\' then
      match rest with
      | [] => none
      | _ :: rest => (bodyLength? q rest).map (· + 2)
    else if c = q then some 0
    else (bodyLength? q rest).map (· + 1)

/-- The literals of a text that begins at `offset`. A quote that is never closed is passed over. -/
def literalsFrom (offset : Nat) : List Char → List Literal
  | [] => []
  | c :: rest =>
    if isQuote c then
      match bodyLength? c rest with
      | some n =>
        ⟨rest.take n, offset + 1, c⟩ :: literalsFrom (offset + n + 2) (rest.drop (n + 1))
      | none => literalsFrom (offset + 1) rest
    else
      literalsFrom (offset + 1) rest
termination_by s => s.length
decreasing_by all_goals (simp; try omega)

def literals (text : List Char) : List Literal :=
  literalsFrom 0 text

/-- The nearest quote of the line before an offset, given the text before it in reverse: how far
back it stands, and which quote it is. A quote behind a backslash is passed over; a line end or a
semicolon ends the search. -/
def openingQuote? : List Char → Option (Nat × Char)
  | [] => none
  | c :: before =>
    if isQuote c then
      if before.head? = some '\\' then (openingQuote? before).map fun r => (r.1 + 1, r.2)
      else some (0, c)
    else if c = '\n' ∨ c = ';' then none
    else (openingQuote? before).map fun r => (r.1 + 1, r.2)

/-- How far ahead the next quote `q` of the line stands, `previous` being the character before. A
quote behind a backslash is passed over. -/
def closingQuote? (q : Char) : (previous : Option Char) → List Char → Option Nat
  | _, [] => none
  | previous, c :: rest =>
    if c = q then
      if previous = some '\\' then (closingQuote? q (some c) rest).map (· + 1) else some 0
    else if c = '\n' then none
    else (closingQuote? q (some c) rest).map (· + 1)

def enclosingLiteral (text : List Char) (offset : Nat) : Except ScanError (Option Literal) :=
  if text.length < offset then .error .outOfRange
  else
    let before := (text.take offset).reverse
    .ok <|
      (openingQuote? before).bind fun found =>
        (closingQuote? found.2 before.head? (text.drop offset)).map fun ahead =>
          let start := offset - found.1
          { body := (text.drop start).take (found.1 + ahead), start := start, quote := found.2 }

/-- Words that a literal holds only when it is code. -/
def codeMarkers : List String := ["function", "=>", "return"]

/-- How a literal begins that names a file or an address. -/
def pathStarts : List String := ["http", ".", "github:"]

def occursIn (part : List Char) : List Char → Bool
  | [] => part.isEmpty
  | c :: rest => part.isPrefixOf (c :: rest) || occursIn part rest

/-- A literal that is clearly no pattern: a blank one, a path or an address, or a piece of code. -/
def isExcluded (body : List Char) : Bool :=
  Text.isAllBlank body ||
    (body.contains '/' && pathStarts.any fun p => p.toList.isPrefixOf body) ||
    codeMarkers.any fun m => occursIn m.toList body

end PatternServer.Document
