import PatternServer.Document.Encoding

/-!
# Offsets and positions

A place in a document is an offset, counted in characters, or a position, which is a line and a
column in the code units of an encoding. Lines end at a line feed and nothing else; the line feed
belongs to no column.
-/

namespace PatternServer.Document

set_option autoImplicit false

structure Position where
  line : Nat
  character : Nat
deriving Repr, DecidableEq, Inhabited

structure Range where
  start : Position
  stop : Position
deriving Repr, DecidableEq, Inhabited

namespace Position

/-- The greatest line or column that the editor protocol can carry. -/
def limit : Nat := 2147483647

/-- A line and a column that the editor protocol can carry. -/
def ofInts? (line character : Int) : Option Position :=
  if 0 ≤ line ∧ line ≤ limit ∧ 0 ≤ character ∧ character ≤ limit then
    some ⟨line.toNat, character.toNat⟩
  else
    none

/-- The text by which suggestions are found again. -/
def key (p : Position) : String :=
  toString p.line ++ ":" ++ toString p.character

end Position

/-- The part of a text behind its last line feed. -/
def lastLine (s : List Char) : List Char :=
  (s.reverse.takeWhile (· ≠ '\n')).reverse

/-- The position of an offset. Offsets beyond either end count as that end. -/
def positionAt (e : Encoding) (text : List Char) (offset : Int) : Position :=
  let before := text.take offset.toNat
  { line := before.count '\n', character := e.units (lastLine before) }

/-- The offset at which a line begins, if the text has so many lines. -/
def lineStart? : List Char → (line : Nat) → Option Nat
  | _, 0 => some 0
  | [], _ + 1 => none
  | c :: rest, line + 1 =>
    (lineStart? rest (if c = '\n' then line else line + 1)).map (· + 1)

/-- The offset of a line and a column. A line before the first means the start of the text and one
behind the last its end; a column is brought into its line, and rounded up inside a wide
character. -/
def offsetAt (e : Encoding) (text : List Char) (line character : Int) : Nat :=
  if line < 0 then 0
  else
    match lineStart? text line.toNat with
    | none => text.length
    | some start =>
      start + e.charsFor ((text.drop start).takeWhile (· ≠ '\n')) character.toNat

def Position.offset (e : Encoding) (text : List Char) (p : Position) : Nat :=
  offsetAt e text p.line p.character

/-- The range between two offsets. -/
def rangeOf (e : Encoding) (text : List Char) (start stop : Nat) : Range :=
  ⟨positionAt e text start, positionAt e text stop⟩

end PatternServer.Document
