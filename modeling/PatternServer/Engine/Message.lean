import PatternServer.Data.Record
import PatternServer.Text.Blank
import PatternServer.Vocabulary.Registry

/-!
# Messages from the engine

The engine sends one message a line: a table with a type and, under the name of that type, a list of
names. Any other line means nothing.
-/

namespace PatternServer.Engine

set_option autoImplicit false

open PatternServer.Data PatternServer.Text PatternServer.Vocabulary

inductive Topic where
  | samples
  | banks
  | sounds
deriving Repr, DecidableEq, Inhabited

namespace Topic

def name : Topic → String
  | .samples => "samples"
  | .banks => "banks"
  | .sounds => "sounds"

def all : List Topic := [.samples, .banks, .sounds]

def ofName? (s : String) : Option Topic :=
  all.find? fun t => t.name == s

/-- The request for a message on a topic, as it is sent. -/
def request : Topic → String
  | .samples => "\x7b\"type\":\"getSamples\"\x7d\n"
  | .banks => "\x7b\"type\":\"getBanks\"\x7d\n"
  | .sounds => "\x7b\"type\":\"getSounds\"\x7d\n"

end Topic

structure Message where
  topic : Topic
  names : List String
deriving Repr, DecidableEq, Inhabited

namespace Message

/-- The message that a table is, if it is one. No list at all counts as an empty one. -/
def ofFields? (fields : List (String × Value)) : Option Message := do
  let kind ← Value.lookup "type" fields
  let topic ← kind.asText?.bind Topic.ofName?
  let names ← Value.field? fields topic.name (some []) (Value.asListOf? Value.asText?)
  return { topic, names }

/-- The registry after a message: its names replace those of its topic. -/
def apply (m : Message) (r : Registry) : Registry :=
  match m.topic with
  | .samples => r.replaceSamples m.names
  | .banks => r.replaceBanks m.names
  | .sounds => r.replaceSounds m.names

/-- The message on a line, if there is one. A line with an overlong number, or with a value deeper
than `nesting`, cannot be read at all. -/
def ofLine? (nesting : Nat) (line : List Char) : Except JsonError (Option Message) :=
  if isAllBlank line then .ok none
  else
    match Json.read (Json.loose nesting) line with
    | .ok (.table fields) => .ok (ofFields? fields)
    | .ok _ => .ok none
    | .error .malformed => .ok none
    | .error e => .error e

end Message

end PatternServer.Engine
