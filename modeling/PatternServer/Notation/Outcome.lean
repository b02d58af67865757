import PatternServer.Data.Value
import PatternServer.Document.Position
import PatternServer.Notation.Quoting
import PatternServer.Text.Digit

/-!
# What a parser says about a literal

A parser answers with the leaves of the pattern or refuses. A refusal is unavailability or an error
report, whose location and expectations are values of whatever shape the parser chose. This module
turns both kinds of answer into an `Outcome`: the span of an error is taken from its location or,
without one, from a line and a column named in its message.
-/

namespace PatternServer.Notation

set_option autoImplicit false

open PatternServer.Data PatternServer.Document PatternServer.Number PatternServer.Text

/-- A half-open stretch of the quoted form. -/
structure Span where
  start : Int
  stop : Int
deriving Repr, DecidableEq, Inhabited

structure Leaf where
  kind : String
  text : String
  span : Span
deriving Repr, DecidableEq, Inhabited

structure SyntaxReport where
  message : String
  location : Value
  expected : Option (List Value)
  /-- What stood in the way: missing if the parser does not say, null at the end of the input. -/
  found : Option Value
deriving Inhabited

/-- A report that says nothing but its message. -/
def SyntaxReport.ofMessage (message : String) : SyntaxReport :=
  { message, location := .null, expected := none, found := none }

/-- Why a parser has no leaves to give. -/
inductive Refusal where
  | unavailable (message : String)
  | syntaxError (report : SyntaxReport)
deriving Inhabited

/-- A failed parse as the diagnostics see it. -/
structure Failure where
  message : String
  span : Option Span
  expected : Option (List String)
  found : Option String
  hasFound : Bool
  /-- Whether the parser ran at all. -/
  parserRan : Bool
deriving Repr, DecidableEq, Inhabited

inductive Outcome where
  | success (leaves : List Leaf)
  | failure (f : Failure)
deriving Repr, DecidableEq, Inhabited

/-- A report that names a number beyond the digit limit cannot be turned into an outcome. -/
inductive OutcomeError where
  | tooManyDigits
deriving Repr, DecidableEq, Inhabited

/-- The offset of a line and a column, both counted from one. Lines behind the last mean the last,
and no column lies before the start of its line. -/
def lineColumnOffset (text : List Char) (line column : Int) : Int :=
  let start := (lineStart? text (min (line - 1).toNat (text.count '\n'))).getD 0
  start + max 0 (column - 1)

/-- A whole number in a location; a truth value counts as one. -/
def locationNumber? : Option Value → Option Int
  | some (.int n) => some n
  | some (.bool b) => some (if b then 1 else 0)
  | _ => none

/-- The offset of one end of a location: as given, or by its line and column. -/
def pointOffset? (text : List Char) (point : Option Value) : Option Int :=
  point.bind fun p =>
    match p with
    | .table fields =>
      match Value.lookup "offset" fields with
      | some (.int n) => some n
      | _ =>
        (locationNumber? (Value.lookup "line" fields)).bind fun line =>
          (locationNumber? (Value.lookup "column" fields)).map fun column =>
            lineColumnOffset text line column
    | _ => none

/-- The span of a location. Without a usable end it is one character long. -/
def spanOfLocation? (location : Value) (text : List Char) : Option Span :=
  match location with
  | .table fields =>
    (pointOffset? text (Value.lookup "start" fields)).map fun start =>
      match pointOffset? text (Value.lookup "end" fields) with
      | some stop => if stop < start then ⟨start, start + 1⟩ else ⟨start, stop⟩
      | none => ⟨start, start + 1⟩
  | _ => none

/-- How an expectation is shown: a literal in single quotes, else its description, else the whole
of it. -/
def describeExpected? (item : Value) : Option String :=
  match item with
  | .table fields =>
    match Value.lookup "type" fields, Value.lookup "text" fields with
    | some (.text "literal"), some text => text.display?.map fun s => "'" ++ s ++ "'"
    | _, _ =>
      match Value.lookup "description" fields with
      | some d => if d.isGiven then d.display? else item.display?
      | none => item.display?
  | _ => item.display?

/-- The rest of `s` after a fixed beginning. -/
def stripStart? (start : String) (s : List Char) : Option (List Char) :=
  if start.toList.isPrefixOf s then some (s.drop start.length) else none

def takeNumber? (s : List Char) : Option (List Char × List Char) :=
  match s.takeWhile isDecimalDigit with
  | [] => none
  | ds => some (ds, s.dropWhile isDecimalDigit)

/-- A line and perhaps a column at the front of `s`, as digits, and the rest. -/
def lineColumnAt? (s : List Char) : Option (List Char × Option (List Char) × List Char) :=
  (stripStart? "line " s).bind fun s =>
    (takeNumber? s).map fun (line, rest) =>
      match (stripStart? " column " rest).bind takeNumber? with
      | some (column, rest) => (line, some column, rest)
      | none => (line, none, rest)

/-- The first line, with its column if there is one, that a message names. -/
def findLineColumn? : List Char → Option (List Char × Option (List Char))
  | [] => none
  | c :: rest =>
    match lineColumnAt? (c :: rest) with
    | some (line, column, _) => some (line, column)
    | none => findLineColumn? rest

/-- A message without the announcement of the place of the error. -/
def stripAnnouncement (message : List Char) : List Char :=
  let rest? :=
    (stripStart? "[mini] parse error at " message).bind fun s =>
      (lineColumnAt? s).bind fun (_, _, rest) => stripStart? ":" rest
  match rest? with
  | some rest => rest.dropWhile isBlank
  | none => message

/-- The number that digits spell, if there are not too many. -/
def boundedNumber (digits : List Char) : Except OutcomeError Int :=
  if digitLimit < digits.length then .error .tooManyDigits else .ok (decimalValue digits)

def displayed (shown : Option String) : Except OutcomeError String :=
  match shown with
  | some s => .ok s
  | none => .error .tooManyDigits

def failureOfReport (quoted : List Char) (report : SyntaxReport) :
    Except OutcomeError Failure := do
  let message := if report.message.isEmpty then "Unknown parse error" else report.message
  if report.location.isGiven then
    let expected ←
      match report.expected with
      | some items => (items.mapM fun i => displayed (describeExpected? i)).map some
      | none => pure none
    let found ←
      match report.found with
      | none | some .null => pure none
      | some v => (displayed v.display?).map some
    return {
      message := message
      span := spanOfLocation? report.location quoted
      expected := expected
      found := found
      hasFound := report.found.isSome
      parserRan := true }
  else
    match findLineColumn? message.toList with
    | some (line, column) =>
      let line ← boundedNumber line
      let column ←
        match column with
        | some column => boundedNumber column
        | none => pure 1
      let start := lineColumnOffset quoted line column
      return {
        message := String.ofList (stripAnnouncement message.toList)
        span := some ⟨start, start + 1⟩
        expected := none
        found := none
        hasFound := false
        parserRan := true }
    | none =>
      return {
        message := message
        span := none
        expected := none
        found := none
        hasFound := false
        parserRan := true }

def failureOfUnavailable (message : String) : Failure :=
  { message := if message.isEmpty then "parser unavailable" else message
    span := none
    expected := none
    found := none
    hasFound := false
    parserRan := false }

def outcomeOf (quoted : List Char) : Except Refusal (List Leaf) → Except OutcomeError Outcome
  | .ok leaves => .ok (.success leaves)
  | .error (.unavailable message) => .ok (.failure (failureOfUnavailable message))
  | .error (.syntaxError report) => (failureOfReport quoted report).map .failure

/-- How many expectations a message lists. -/
def maxExpected : Nat := 5

/-- The message of a failure: what was expected and what was found, if the parser says both. -/
def Failure.render (f : Failure) : String :=
  match f.expected with
  | none => f.message
  | some expected =>
    if f.hasFound then
      let shown := ", ".intercalate (expected.take maxExpected)
      let more :=
        if maxExpected < expected.length then
          ", ... (" ++ toString (expected.length - maxExpected) ++ " more)"
        else ""
      let found :=
        match f.found with
        | none => "end of input"
        | some found => "'" ++ found ++ "'"
      "Syntax error: expected " ++ shown ++ more ++ " but found " ++ found
    else f.message

end PatternServer.Notation
