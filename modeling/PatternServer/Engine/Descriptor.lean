import PatternServer.Data.Record
import PatternServer.Text.Utf8

/-!
# Where an engine is to be found

An engine that runs writes its port and the number of its process into a state file. The file may be
missing, cut short or left over from an engine that is gone.
-/

namespace PatternServer.Engine

set_option autoImplicit false

open PatternServer.Data PatternServer.Text

structure Descriptor where
  port : Int
  pid : Int
deriving Repr, DecidableEq, Inhabited

def Descriptor.ofValue? (v : Value) : Option Descriptor := do
  let fields ← v.asTable?
  let port ← Value.field? fields "port" none Value.asInt?
  let pid ← Value.field? fields "pid" none Value.asInt?
  return { port, pid }

/-- The state file holds bytes that are no text. -/
inductive StateFileError where
  | notText
deriving Repr, DecidableEq, Inhabited

/-- The engine that a state file tells of, if there is a file and it tells of one. -/
def readState (content : Option (List UInt8)) : Except StateFileError (Option Descriptor) :=
  match content with
  | none => .ok none
  | some bytes =>
    match Utf8.decode? bytes with
    | none => .error .notText
    | some text =>
      .ok ((Json.read Json.strict (unifyLineEnds text)).toOption.bind Descriptor.ofValue?)

/-- What asking for a process says. -/
inductive Probe where
  | found
  /-- The process is there, but belongs to someone else. -/
  | denied
  | gone
  | failed
  /-- There is no asking for a process with such a number. -/
  | impossible
deriving Repr, DecidableEq, Inhabited

inductive Liveness where
  | running
  | stopped
  /-- Asking fails in a way that nobody is prepared for. -/
  | unknown
deriving Repr, DecidableEq, Inhabited

def Probe.liveness : Probe → Liveness
  | .found | .denied => .running
  | .gone | .failed => .stopped
  | .impossible => .unknown

/-- Whether an engine runs where a descriptor says. Only a positive process number is asked for. -/
def liveness (probe : Int → Probe) (d : Option Descriptor) : Liveness :=
  match d with
  | none => .stopped
  | some d => if 0 < d.port ∧ 0 < d.pid then (probe d.pid).liveness else .stopped

def isRunning (probe : Int → Probe) (d : Option Descriptor) : Bool :=
  liveness probe d == .running

end PatternServer.Engine
