import PatternServer.Notation.Outcome

/-!
# A parser that checks brackets

The parser used where no full one is at hand. It refuses a pattern whose brackets do not match and
otherwise reports every run of characters between separators as an atom. Like any parser it works on
the quoted form and does not look at the two quotes around it.
-/

namespace PatternServer.Notation.Brackets

set_option autoImplicit false

open PatternServer.Data PatternServer.Document PatternServer.Text

def closer? (c : Char) : Option Char :=
  match c with
  | '[' => some ']'
  | '<' => some '>'
  | '\x7b' => some '\x7d'
  | '(' => some ')'
  | _ => none

def isCloser (c : Char) : Bool :=
  c == ']' || c == '>' || c == '\x7d' || c == ')'

/-- Where the brackets of a pattern go wrong. -/
inductive Mismatch where
  /-- A closing bracket that closes nothing. -/
  | unexpected (offset : Nat) (found : Char)
  /-- The end of the pattern where a bracket should be closed. -/
  | unclosed (expected : Char)
deriving Repr, DecidableEq, Inhabited

/-- Reads the pattern from `offset` on with the closing brackets still awaited. -/
def mismatch? : (offset : Nat) → (awaited : List Char) → List Char → Option Mismatch
  | _, [], [] => none
  | _, c :: _, [] => some (.unclosed c)
  | offset, awaited, c :: rest =>
    match closer? c with
    | some close => mismatch? (offset + 1) (close :: awaited) rest
    | none =>
      if isCloser c then
        match awaited with
        | [] => some (.unexpected offset c)
        | close :: awaited =>
          if close = c then mismatch? (offset + 1) awaited rest
          else some (.unexpected offset c)
      else mismatch? (offset + 1) awaited rest

/-- An offset of the quoted form as a location gives it. -/
def pointValue (quoted : List Char) (offset : Nat) : Value :=
  let before := quoted.take offset
  .table [("offset", .int offset), ("line", .int (before.count '\n' + 1)),
    ("column", .int ((lastLine before).length + 1))]

def locationValue (quoted : List Char) (offset : Nat) : Value :=
  .table [("start", pointValue quoted offset), ("end", pointValue quoted (offset + 1))]

def literalValue (c : Char) : Value :=
  .table [("type", .text "literal"), ("text", .text (String.singleton c))]

def report (quoted : List Char) : Mismatch → SyntaxReport
  | .unexpected offset found =>
    { message := "Expected \"~\" or whitespace but \"" ++ String.singleton found ++ "\" found."
      location := locationValue quoted offset
      expected := some [literalValue '~',
        .table [("type", .text "other"), ("description", .text "whitespace")]]
      found := some (.text (String.singleton found)) }
  | .unclosed close =>
    { message := "Expected \"" ++ String.singleton close ++ "\" but end of input found."
      location := locationValue quoted (quoted.length - 1)
      expected := some [literalValue close]
      found := some .null }

def isSeparator (c : Char) : Bool :=
  isBlank c || "[]\x7b\x7d()<>,|*/!?@:".toList.contains c

/-- The maximal runs that hold no separator, with the offsets of their beginnings. `run` is the run
being read, in reverse, and `offset` the place of the next character. -/
def runsFrom (isSeparator : Char → Bool) :
    (offset : Nat) → (run : List Char) → List Char → List (Nat × List Char)
  | offset, run, [] => if run.isEmpty then [] else [(offset - run.length, run.reverse)]
  | offset, run, c :: rest =>
    if isSeparator c then
      let later := runsFrom isSeparator (offset + 1) [] rest
      if run.isEmpty then later else (offset - run.length, run.reverse) :: later
    else
      runsFrom isSeparator (offset + 1) (c :: run) rest

def inner (quoted : List Char) : List Char :=
  (quoted.drop 1).dropLast

def atoms (quoted : List Char) : List Leaf :=
  (runsFrom isSeparator 1 [] (inner quoted)).map fun (start, run) =>
    { kind := "atom", text := String.ofList run, span := ⟨start, start + run.length⟩ }

/-- The parser's answer to the quoted form of a literal. -/
def parse (quoted : List Char) : Except Refusal (List Leaf) :=
  match mismatch? 1 [] (inner quoted) with
  | some m => .error (.syntaxError (report quoted m))
  | none => .ok (atoms quoted)

end PatternServer.Notation.Brackets
