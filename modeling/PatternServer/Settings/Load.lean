import PatternServer.Data.Toml.Document
import PatternServer.Files.Tree
import PatternServer.Settings.Basic
import PatternServer.Text.Split
import PatternServer.Text.Utf8

/-!
# Loading settings

Settings from the content of a configuration file and from the environment, which wins where both
speak. A file that is missing or is no configuration counts as empty, and so does a section that is
no table. Values of the wrong kind are refused.
-/

namespace PatternServer.Settings

set_option autoImplicit false

open PatternServer.Number PatternServer.Files PatternServer.Data PatternServer.Text

inductive Complaint where
  | unknownLogLevel (name : String)
  | notANumber (setting shown : String)
  | negative (setting shown : String)
  | commandKind (shown : String)
  | commandEmpty
deriving Repr, DecidableEq, Inhabited

def Complaint.message : Complaint → String
  | .unknownLogLevel name => "unknown log level " ++ String.ofList (quoted name.toList)
  | .notANumber setting shown => setting ++ " must be a number, got " ++ shown
  | .negative setting shown => setting ++ " must not be negative, got " ++ shown
  | .commandKind shown => "parser.command must be a string or list, got " ++ shown
  | .commandEmpty => "parser.command must not be empty"

inductive LoadError where
  | complaint (c : Complaint)
  | fileNotText
  /-- The name of the file cannot be that of a file. -/
  | badFileName
  | tooManyDigits
  | tooDeep
  | numberTooLarge
  | home (e : HomeError)
deriving Repr, DecidableEq, Inhabited

/-- What the environment sets; an empty text sets nothing. -/
structure Environment where
  host : String
  stateFile : String
  logLevel : String
deriving Repr, DecidableEq, Inhabited

def Environment.ofVariables (lookup : String → Option String) : Environment :=
  { host := (lookup "STRUDEL_HOST").getD ""
    stateFile := (lookup "STRUDEL_ENGINE_STATE").getD ""
    logLevel := (lookup "STRUDEL_LSP_LOG_LEVEL").getD "" }

/-- The table of a configuration file, from what came of reading the file. -/
def readConfig (content : Except FileError (List UInt8)) (room : Nat := usualRoom) :
    Except LoadError Toml.Fields :=
  match content with
  | .error .nullInName => .error .badFileName
  | .error _ => .ok []
  | .ok bytes =>
    match Utf8.decode? bytes with
    | none => .error .fileNotText
    | some s =>
      match Toml.read (unifyLineEnds s) room with
      | .ok fields => .ok fields
      | .error .malformed => .ok []
      | .error .tooManyDigits => .error .tooManyDigits
      | .error .tooDeep => .error .tooDeep

def sectionOf (config : Toml.Fields) (name : String) : Toml.Fields :=
  match Value.lookup name config with
  | some (.table fields) => fields
  | _ => []

def display (v : Value) : Except LoadError String :=
  match v.display? with
  | some s => .ok s
  | none => .error .tooManyDigits

/-- A complaint that shows the value it is about. -/
def complain {α : Type} (v : Value) (c : String → Complaint) : Except LoadError α :=
  match v.quoted? with
  | some s => .error (.complaint (c s))
  | none => .error .tooManyDigits

/-- A text: the environment's, else the file's, else the default. -/
def textSetting (fromEnvironment : String) (fields : Toml.Fields) (key : String)
    (default : String) : Except LoadError String :=
  if fromEnvironment.isEmpty then
    match Value.lookup key fields with
    | some v => if v.isGiven then display v else .ok default
    | none => .ok default
  else .ok fromEnvironment

def number? (v : Value) : Except LoadError (Option Double) :=
  match v with
  | .int n =>
    match Double.ofInt? n with
    | some d => .ok (some d)
    | none => .error .numberTooLarge
  | .real d => .ok (some d)
  | .text s => .ok (readDouble? s.toList)
  | _ => .ok none

/-- A number that is not negative. -/
def numberSetting (setting : String) (fields : Toml.Fields) (key : String) (default : Double) :
    Except LoadError Double :=
  match Value.lookup key fields with
  | none => .ok default
  | some v => do
    match ← number? v with
    | none => complain v (.notANumber setting)
    | some d => if d.lt Double.zero then complain v (.negative setting) else .ok d

/-- The texts of the items of a list that are not all blank. -/
def commandWords : List Value → Except LoadError (List String)
  | [] => .ok []
  | v :: rest => do
    let s ← display v
    let words ← commandWords rest
    return if isAllBlank s.toList then words else s :: words

def commandSetting (fields : Toml.Fields) : Except LoadError (List String) := do
  let words ←
    match Value.lookup "command" fields with
    | none => .ok defaultCommand
    | some (.text s) => .ok ((words s.toList).map String.ofList)
    | some (.list items) => commandWords items
    | some v => complain v .commandKind
  if words.isEmpty then throw (.complaint .commandEmpty)
  return words

/-- The names in a text, divided by commas. -/
def commaNames (s : String) : List String :=
  ((splitOn ',' s.toList).map trim).filterMap fun name =>
    if name.isEmpty then none else some (String.ofList name)

/-- Names given in one text or in the texts of a list. -/
def nameSetting (fields : Toml.Fields) (key : String) : List String :=
  match Value.lookup key fields with
  | some (.text s) => commaNames s
  | some (.list items) =>
    items.flatMap fun v =>
      match v with
      | .text s => commaNames s
      | _ => []
  | _ => []

def expandHome (homes : Homes) (p : Path) : Except LoadError Path :=
  match p.expandHome homes with
  | .ok p => .ok p
  | .error e => .error (.home e)

/-- The settings of a configuration file and the environment. Of several faults the first in the
order of the settings is reported. -/
def load (content : Except FileError (List UInt8)) (env : Environment) (homes : Homes)
    (room : Nat := usualRoom) : Except LoadError Settings := do
  let config ← readConfig content room
  let engine := sectionOf config "engine"
  let parser := sectionOf config "parser"
  let diagnostics := sectionOf config "diagnostics"
  let logging := sectionOf config "logging"
  let host ← textSetting env.host engine "host" defaultHost
  let stateFile ← textSetting env.stateFile engine "state_file" defaultStateFile.toText
  let logLevel ← textSetting env.logLevel logging "level" defaultLogLevel
  if (LogLevel.ofName? logLevel).isNone then throw (.complaint (.unknownLogLevel logLevel))
  let stateFile ← expandHome homes (Path.ofString stateFile)
  let settleDelay ←
    numberSetting "engine.settle_delay" engine "settle_delay" defaultSettleDelay
  let pollInterval ←
    numberSetting "engine.poll_interval" engine "poll_interval" defaultPollInterval
  let command ← commandSetting parser
  let module ← textSetting "" parser "module" defaultModule
  let timeout ← numberSetting "parser.timeout" parser "timeout" defaultTimeout
  let restartDelay ←
    numberSetting "parser.restart_delay" parser "restart_delay" defaultRestartDelay
  return {
    engine := { host, stateFile, settleDelay, pollInterval }
    parser := { command, module, timeout, restartDelay }
    extraSamples := nameSetting diagnostics "extra_samples"
    nonSampleFunctions := nameSetting diagnostics "non_sample_functions"
    logLevel := LogLevel.plainName logLevel }

end PatternServer.Settings
