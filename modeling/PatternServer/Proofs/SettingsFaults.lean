import Mathlib.Data.List.DropRight
import PatternServer.Proofs.DoubleRange
import PatternServer.Proofs.ParseOutcomes
import PatternServer.Proofs.TomlLimits
import PatternServer.Proofs.Utf8Decoding
import PatternServer.Settings.Load

/-!
# Settings that are refused and settings that fail

Settings that cannot be used lead to a complaint, which the callers are prepared for. There are
faults that escape this: a file that is no text or goes beyond a limit of its notation, numbers with
too many digits to be shown or too large for a double, and a state file in a home directory that is
not there. What comes of loading settings is decided by the first of them that is not accepted.
-/

namespace PatternServer.Settings

set_option autoImplicit false

open PatternServer.Data PatternServer.Files PatternServer.Number PatternServer.Text

/-! Faults that are not met with a complaint. -/

/-- What settings are made from, once the file has been read. -/
structure Source where
  config : Toml.Fields
  env : Environment
  homes : Homes

/-- The settings that can be at fault. -/
inductive Item where
  | host
  | stateFile
  | logLevel
  /-- The home directory in the place of the state file. -/
  | home
  | settleDelay
  | pollInterval
  | command
  | module
  | timeout
  | restartDelay
deriving DecidableEq

/-- The order in which they are looked at. -/
def Item.order : List Item :=
  [.host, .stateFile, .logLevel, .home, .settleDelay, .pollInterval, .command, .module, .timeout,
    .restartDelay]

namespace Source

def engine (s : Source) : Toml.Fields := sectionOf s.config "engine"

def parser (s : Source) : Toml.Fields := sectionOf s.config "parser"

def logging (s : Source) : Toml.Fields := sectionOf s.config "logging"

def stateFile (s : Source) : Except LoadError String :=
  textSetting s.env.stateFile s.engine "state_file" defaultStateFile.toText

def logLevel (s : Source) : Except LoadError String :=
  textSetting s.env.logLevel s.logging "level" defaultLogLevel

def check (s : Source) : Item → Except LoadError Unit
  | .host => (textSetting s.env.host s.engine "host" defaultHost).map fun _ => ()
  | .stateFile => s.stateFile.map fun _ => ()
  | .logLevel => do
    let name ← s.logLevel
    if (LogLevel.ofName? name).isNone then throw (.complaint (.unknownLogLevel name))
  | .home => do
    let place ← s.stateFile
    (expandHome s.homes (Path.ofString place)).map fun _ => ()
  | .settleDelay =>
    (numberSetting "engine.settle_delay" s.engine "settle_delay" defaultSettleDelay).map fun _ => ()
  | .pollInterval =>
    (numberSetting "engine.poll_interval" s.engine "poll_interval" defaultPollInterval).map
      fun _ => ()
  | .command => (commandSetting s.parser).map fun _ => ()
  | .module => (textSetting "" s.parser "module" defaultModule).map fun _ => ()
  | .timeout => (numberSetting "parser.timeout" s.parser "timeout" defaultTimeout).map fun _ => ()
  | .restartDelay =>
    (numberSetting "parser.restart_delay" s.parser "restart_delay" defaultRestartDelay).map
      fun _ => ()

end Source

end PatternServer.Settings
