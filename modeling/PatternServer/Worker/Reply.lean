import PatternServer.Data.Record
import PatternServer.Notation.Outcome
import PatternServer.Text.Utf8

/-!
# Requests and replies of a parser worker

A worker is asked on one line and answers on one line. A line that does not read as a reply is
output of some other origin and means nothing.
-/

namespace PatternServer.Worker

set_option autoImplicit false

open PatternServer.Data PatternServer.Notation PatternServer.Text

/-- What a worker is asked for: to accept a pattern, or to give its leaves. -/
inductive RequestKind where
  | parse
  | leaves
deriving Repr, DecidableEq, Inhabited

def RequestKind.name : RequestKind → String
  | .parse => "parse"
  | .leaves => "leaves"

structure Request where
  id : Nat
  kind : RequestKind
  input : List Char
deriving Repr, DecidableEq, Inhabited

/-- A leaf as a worker reports it, its location being whatever table the worker sends. -/
structure LeafReply where
  kind : String
  source : String
  location : List (String × Value)
deriving Inhabited

structure ErrorReply where
  message : String
  location : Option (List (String × Value))
  expected : Option (List Value)
  /-- What stood in the way, if the worker says anything about it. -/
  found : Option (Option String)
deriving Inhabited

structure Reply where
  id : Int
  ok : Bool
  leaves : List LeafReply
  error : Option ErrorReply
deriving Inhabited

/-- The message of an error that comes without one. -/
def unknownError : String := "Unknown parse error"

def LeafReply.ofValue? (v : Value) : Option LeafReply := do
  let fields ← v.asTable?
  let kind ← Value.field? fields "type" none Value.asText?
  let source ← Value.field? fields "source" none Value.asText?
  let location ← Value.field? fields "location" none Value.asTable?
  return { kind, source, location }

def ErrorReply.ofValue? (v : Value) : Option ErrorReply := do
  let fields ← v.asTable?
  let message ← Value.field? fields "message" (some unknownError) Value.asText?
  let location ← Value.field? fields "location" (some none) (Value.orNull? Value.asTable?)
  let expected ← Value.field? fields "expected" (some none) (Value.orNull? Value.asList?)
  let found ←
    Value.field? fields "found" (some none) fun f => (Value.orNull? Value.asText? f).map some
  return { message, location, expected, found }

def Reply.ofValue? (v : Value) : Option Reply := do
  let fields ← v.asTable?
  let id ← Value.field? fields "id" none Value.asInt?
  let ok ← Value.field? fields "ok" none Value.asBool?
  let leaves ← Value.field? fields "leaves" (some []) (Value.asListOf? LeafReply.ofValue?)
  let error ← Value.field? fields "error" (some none) (Value.orNull? ErrorReply.ofValue?)
  return { id, ok, leaves, error }

/-- The reply that a line of output is, if it is one. -/
def Reply.ofLine? (line : List UInt8) : Option Reply := do
  let text ← Utf8.decode? line
  let value ← (Json.read Json.strict text).toOption
  Reply.ofValue? value

/-- The report that a refusing reply makes. -/
def Reply.report (r : Reply) : SyntaxReport :=
  match r.error with
  | none => { message := unknownError, location := .null, expected := none, found := none }
  | some e =>
    { message := e.message
      location := (e.location.map Value.table).getD .null
      expected := e.expected
      found := e.found.map fun f => (f.map Value.text).getD .null }

/-- The leaves of a reply about `quoted`; one without a usable location is left out. -/
def Reply.leafList (r : Reply) (quoted : List Char) : List Leaf :=
  r.leaves.filterMap fun l =>
    (spanOfLocation? (.table l.location) quoted).map fun span =>
      { kind := l.kind, text := l.source, span }

end PatternServer.Worker
