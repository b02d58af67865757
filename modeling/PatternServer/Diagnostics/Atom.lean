import PatternServer.Vocabulary.Registry

/-!
# Known atoms

Which atoms of a pattern need no remark, and how the words of a pattern are found without a parser.
-/

namespace PatternServer.Diagnostics

set_option autoImplicit false

open PatternServer.Text PatternServer.Vocabulary

/-- A text without the line feed at its very end, if there is one. -/
def dropFinalNewline (s : List Char) : List Char :=
  if s.getLast? = some '\n' then s.dropLast else s

def isNoteLetter (c : Char) : Bool :=
  let l := c.toLower
  'a' ≤ l && l ≤ 'g'

/-- Sharp or flat, in either case; the long s is a letter case of s. -/
def isAccidental (c : Char) : Bool :=
  c == 's' || c == 'S' || c == 'ſ' || c == 'b' || c == 'B'

/-- A note: a letter, perhaps an accidental, perhaps an octave of one digit. -/
def isNote (s : List Char) : Bool :=
  match s with
  | [] => false
  | c :: rest =>
    let octave :=
      match rest with
      | a :: more => if isAccidental a then more else rest
      | [] => []
    isNoteLetter c &&
      match octave with
      | [] => true
      | [d] => d.isDigit
      | _ => false

def isNumberChar (c : Char) : Bool :=
  c.isDigit || c == '.' || c == '-'

/-- Made of digits, points and minus signs only. -/
def isNumeric (s : List Char) : Bool :=
  !s.isEmpty && s.all isNumberChar

/-- An atom that needs no remark: a note, a number, a rest, a known name, a structural atom, or a
capitalised word, which stands for a variable. One line feed at the end is overlooked in notes and
numbers. -/
def isKnownAtom (registry : Registry) (word : String) : Bool :=
  let s := word.toList
  isNote (dropFinalNewline s) || isNumeric (dropFinalNewline s) || word == "~" ||
    registry.isSample word || registry.isBank word ||
    Catalog.structuralAtoms.contains (lowerName word) ||
    (match s with
      | c :: _ => c.isUpper
      | [] => false) ||
    isVoicingMode word || isScale word

/-- What divides the words of a pattern. -/
def isWordSeparator (c : Char) : Bool :=
  isBlank c || "[]\x7b\x7d()<>:*/!?@~,|".toList.contains c

def firstOccurrence? (part : List Char) : List Char → Option Nat
  | [] => if part.isEmpty then some 0 else none
  | c :: rest =>
    if part.isPrefixOf (c :: rest) then some 0 else (firstOccurrence? part rest).map (· + 1)

/-- The words of a body that are no numbers, each with the offset at which it first occurs in the
body, be it as a part of another word. -/
def fallbackTokens (body : List Char) : List (Nat × List Char) :=
  (body.splitOnP isWordSeparator).filterMap fun word =>
    if word.isEmpty || isNumeric word then none
    else (firstOccurrence? word body).map fun index => (index, word)

end PatternServer.Diagnostics
