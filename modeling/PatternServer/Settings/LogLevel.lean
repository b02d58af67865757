import PatternServer.Text.Blank
import PatternServer.Text.Lower

/-!
# Log levels

The levels by name and by rank. Names are read without regard to case and to blanks around them.
-/

namespace PatternServer.Settings

set_option autoImplicit false

open PatternServer.Text

inductive LogLevel where
  | debug
  | info
  | warning
  | error
  | critical
deriving Repr, DecidableEq, Inhabited

namespace LogLevel

/-- Records of higher rank are the graver ones. -/
def rank : LogLevel → Nat
  | .debug => 10
  | .info => 20
  | .warning => 30
  | .error => 40
  | .critical => 50

def names : List (String × LogLevel) :=
  [("debug", .debug), ("info", .info), ("warn", .warning), ("warning", .warning),
   ("error", .error), ("critical", .critical)]

/-- The name in the form in which it is looked up. -/
def plainName (name : String) : String :=
  String.ofList (lower (trim name.toList))

def ofName? (name : String) : Option LogLevel :=
  (names.find? fun n => n.1 == plainName name).map (·.2)

end LogLevel

end PatternServer.Settings
