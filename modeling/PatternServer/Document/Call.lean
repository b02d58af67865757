import PatternServer.Document.Literal
import PatternServer.Text.WordChar

/-!
# Calls of the host language

Where a document calls functions: all method calls from the front, the call whose argument list an
offset is in, and the call that has just been opened before an offset. None of these scans knows
about literals.
-/

namespace PatternServer.Document

set_option autoImplicit false

open PatternServer.Text

/-- A method call: its name and the offset of the name. -/
structure CallSite where
  name : List Char
  start : Nat
deriving Repr, DecidableEq, Inhabited

/-- The call around an offset, and the argument the offset is in. -/
structure CallContext where
  name : List Char
  argument : Nat
deriving Repr, DecidableEq, Inhabited

/-- The name at the front of `s`, if it is the name of a call: a name does not begin with a digit,
and an opening parenthesis follows it, with nothing but white space between. -/
def calledName? (s : List Char) : Option (List Char) :=
  match s with
  | [] => none
  | c :: _ =>
    if isNameChar c && !c.isDigit then
      match (s.dropWhile isNameChar).dropWhile isBlank with
      | '(' :: _ => some (s.takeWhile isNameChar)
      | _ => none
    else
      none

/-- The method calls of a text that begins at `offset`. -/
def callSitesFrom (offset : Nat) : List Char → List CallSite
  | [] => []
  | c :: rest =>
    if c = '.' then
      match calledName? rest with
      | some name => ⟨name, offset + 1⟩ :: callSitesFrom (offset + 1) rest
      | none => callSitesFrom (offset + 1) rest
    else
      callSitesFrom (offset + 1) rest

def callSites (text : List Char) : List CallSite :=
  callSitesFrom 0 text

/-- Looks for the parenthesis that is open at an offset, given the text before it in reverse, the
parentheses closed so far and the commas passed outside of them. A line end or a semicolon ends the
search. -/
def openCall? (depth argument : Nat) : List Char → Option CallContext
  | [] => none
  | c :: before =>
    if c = ')' then openCall? (depth + 1) argument before
    else if c = '(' then
      match depth with
      | 0 =>
        match (before.takeWhile isNameChar).reverse with
        | [] => none
        | name => some ⟨name, argument⟩
      | depth + 1 => openCall? depth argument before
    else if c = ',' ∧ depth = 0 then openCall? depth (argument + 1) before
    else if c = '\n' ∨ c = ';' then none
    else openCall? depth argument before

def enclosingCall (text : List Char) (offset : Nat) : Except ScanError (Option CallContext) :=
  if text.length < offset then .error .outOfRange
  else .ok (openCall? 0 0 (text.take offset).reverse)

/-- How far back an opened call is looked for. -/
def openingWindow : Nat := 50

/-- The name of the call whose opening parenthesis directly precedes the end of a text, given in
reverse; white space may stand around the parenthesis. -/
def openingName? (before : List Char) : Option (List Char) :=
  match before.dropWhile isBlank with
  | '(' :: rest =>
    match ((rest.dropWhile isBlank).takeWhile isWordChar).reverse with
    | [] => none
    | name => some name
  | _ => none

def callOpeningBefore (text : List Char) (offset : Nat) : Option (List Char) :=
  openingName? ((text.take offset).drop (offset - openingWindow)).reverse

def wordAround (text : List Char) (offset : Nat) : Except ScanError (List Char) :=
  if text.length < offset then .error .outOfRange
  else
    .ok (((text.take offset).reverse.takeWhile isNameChar).reverse ++
      (text.drop offset).takeWhile isNameChar)

/-- The name from `count` characters before the end of a text on. A name that reaches the end goes
on at the front of the text, but only what lies behind its beginning counts. -/
def wordFromEnd (text : List Char) (count : Nat) : Except ScanError (List Char) :=
  let start := text.length - count
  let name := (text.drop start).takeWhile isNameChar
  if text.length < count then .error .outOfRange
  else if name.length < count then .ok name
  else .ok ((text.takeWhile isNameChar).drop start)

/-- The name at an offset of a text. A negative offset is counted from the end. -/
def wordAt (text : List Char) : Int → Except ScanError (List Char)
  | .ofNat offset => wordAround text offset
  | .negSucc k => wordFromEnd text (k + 1)

end PatternServer.Document
