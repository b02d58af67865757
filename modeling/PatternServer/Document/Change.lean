import PatternServer.Document.Position

/-!
# Changes of a document

An editor sends a new text as a whole, or a range and what replaces it. In a range, lines are taken
as an editor takes them: they end at any of the characters that end a line, and the line end belongs
to the last columns of its line.
-/

namespace PatternServer.Document

set_option autoImplicit false

inductive Change where
  | whole (text : List Char)
  | ranged (range : Range) (text : List Char)
deriving Repr, DecidableEq, Inhabited

def isLineEnd (c : Char) : Bool :=
  (10 ≤ c.toNat && c.toNat ≤ 13) || (28 ≤ c.toNat && c.toNat ≤ 30) || c.toNat == 0x85 ||
    c.toNat == 0x2028 || c.toNat == 0x2029

/-- The lines of a text, each with its line end. A carriage return and the line feed behind it are
one line end. -/
def editorLines : List Char → List (List Char)
  | [] => []
  | '\r' :: '\n' :: rest => ['\r', '\n'] :: editorLines rest
  | c :: rest =>
    if isLineEnd c then [c] :: editorLines rest
    else
      match editorLines rest with
      | [] => [[c]]
      | line :: more => (c :: line) :: more

/-- A line in which a carriage return and a line feed at its end are one character. -/
def plainLine (line : List Char) : List Char :=
  match line with
  | [] => []
  | ['\r', '\n'] => ['\n']
  | c :: rest => c :: plainLine rest

/-- The column in characters of a column in code units. A column far behind the line falls one unit
before its end. -/
def nativeColumn (e : Encoding) (line : List Char) (character : Nat) : Nat :=
  let plain := plainLine line
  let width := e.units plain
  e.charsFor plain (if width < character then width - 1 else character)

/-- A line and a column in characters. A line behind the last means the end of the text. -/
def nativePosition (e : Encoding) (lines : List (List Char)) (p : Position) : Nat × Nat :=
  match lines[p.line]? with
  | some line => (p.line, nativeColumn e line p.character)
  | none => (lines.length - 1, e.units (lines.getLastD []))

/-- What is left of a line after a range has been replaced. -/
def replaceInLine (start stop : Nat × Nat) (text line : List Char) (k : Nat) : List Char :=
  if k < start.1 ∨ stop.1 < k then line
  else
    (if k = start.1 then line.take start.2 ++ text else []) ++
      (if k = stop.1 then line.drop stop.2 else [])

def replaceRange (e : Encoding) (source : List Char) (range : Range) (text : List Char) :
    List Char :=
  let lines := editorLines source
  if lines.isEmpty then source ++ text
  else
    let start := nativePosition e lines range.start
    let stop := nativePosition e lines range.stop
    (lines.zipIdx.map fun l => replaceInLine start stop text l.1 l.2).flatten

def Change.apply (e : Encoding) (source : List Char) : Change → List Char
  | .whole text => text
  | .ranged range text => replaceRange e source range text

end PatternServer.Document
