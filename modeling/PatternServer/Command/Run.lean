import PatternServer.Command.Check
import PatternServer.Text.ControlSequence
import PatternServer.Vocabulary.Similarity
import PatternServer.Worker.Pool

/-!
# Running a command

What the program prints and how it exits, and for a server that is to be run, how. Settings that
cannot be used are reported and make the program exit with code two, like arguments that cannot be
used; any other trouble is a crash with code one. Nothing is printed to a terminal.
-/

namespace PatternServer.Command

set_option autoImplicit false

open PatternServer.Files PatternServer.Settings PatternServer.Text PatternServer.Vocabulary

inductive Crash where
  | settings (e : LoadError)
  | check (e : CheckError)
  /-- The output does not take a character. -/
  | unprintable
deriving Repr, DecidableEq, Inhabited

structure Launch where
  options : ServeOptions
  settings : Settings
deriving Repr, DecidableEq, Inhabited

/-- The settings are pinned when a root or a configuration file is named. -/
def Launch.pinned (l : Launch) : Bool :=
  l.options.root.isSome || l.options.config.isSome

def Launch.directory (l : Launch) : Option String :=
  l.options.root.map Path.toText

/-- A parser that was made: for which root directory, and how often it was let go. -/
structure ParserUse where
  root : Option Path
  closes : Nat
deriving Repr, DecidableEq, Inhabited

def ParserUse.made (root : Option Path) : ParserUse := ⟨root, 0⟩

def ParserUse.close (u : ParserUse) : ParserUse := { u with closes := u.closes + 1 }

structure Outcome where
  exit : Nat
  stdout : String
  stderr : String
  crash : Option Crash
  parser : Option ParserUse
  launch : Option Launch
deriving Repr, DecidableEq, Inhabited

namespace Outcome

def quiet (exit : Nat) : Outcome :=
  ⟨exit, "", "", none, none, none⟩

def usageError : Outcome := quiet 2

def printed (text : String) : Outcome := { quiet 0 with stdout := plainText text }

/-- A message on the error channel is preceded by the name of the program. -/
def complained (message : String) : Outcome :=
  { quiet 2 with stderr := plainText ("strudel-lsp: " ++ message ++ "\n") }

def crashed (c : Crash) : Outcome := { quiet 1 with crash := some c }

/-- The outcome of a run that prints lines, up to the first with a character that the output does
not take. -/
def ofLines (takes : Char → Bool) (exit : Nat) (lines : List String) : Outcome :=
  let lines := lines.map plainText
  let isGood (line : String) : Bool := line.toList.all takes
  let stdout := String.join (lines.takeWhile isGood)
  if lines.all isGood then { quiet exit with stdout } else { crashed .unprintable with stdout }

end Outcome

/-- What a command finds around it. -/
structure Surroundings where
  readFile : Path → Except FileError (List UInt8)
  environment : Environment
  homes : Homes

/-- The settings for a root and a configuration file, or the end of the run. -/
def Surroundings.load (w : Surroundings) (root config : Option Path) : Except Outcome Settings :=
  match Settings.load (w.readFile (configPath root config)) w.environment w.homes with
  | .ok settings => .ok settings
  | .error (.complaint c) => .error (.complained c.message)
  | .error e => .error (.crashed (.settings e))

/-- A parser whose worker cannot be started. A command that cannot even be handed to the system does
not count as a parser that cannot be had. -/
def unavailableParser (settings : Settings) (reason : String) : Server.Parser := fun _ =>
  let command := settings.parser.command
  if (settings.parser.module :: command).any fun word => word.toList.contains (Char.ofNat 0) then
    .error (.syntaxError (.ofMessage "embedded null byte"))
  else
    .error (.unavailable (Worker.Unavailable.message (.spawnFailed (command.headD "") reason)))

/-- Checks files and then lets go of the parser, if it is one that can be let go. -/
def checkAndClose (parser : Server.Parser) (closable : Bool) (registry : Registry)
    (files : List (Path × List UInt8)) : ExceptT CheckError (StateM ParserUse) (List Finding) :=
  try
    ofExcept (checkFiles parser registry files)
  finally
    if closable then modify ParserUse.close

def runCheck (w : Surroundings) (parser : Settings → Server.Parser) (closable : Bool)
    (takes : Char → Bool) (o : CheckOptions) : Outcome :=
  match w.load o.root o.config with
  | .error outcome => outcome
  | .ok settings =>
    let files := o.paths.map fun p => (p, (w.readFile p).toOption.getD [])
    let checked := checkAndClose (parser settings) closable (Server.registryOf settings) files
    let (result, parserUse) := checked.run.run (.made o.root)
    let outcome : Outcome :=
      match result with
      | .error e => .crashed (.check e)
      | .ok findings => .ofLines takes (exitCode findings) (render o.json findings)
    { outcome with parser := some parserUse }

def runServe (w : Surroundings) (o : ServeOptions) : Outcome :=
  match w.load o.root o.config with
  | .error outcome => outcome
  | .ok settings => { Outcome.quiet 0 with launch := some ⟨o, settings⟩ }

/-- The words nearest to a word, one a line. -/
def runSuggest (word : String) (functions : Bool) : Outcome :=
  let registry := Registry.standard
  let vocabulary := if functions then registry.functionNames else registry.samples
  .printed (String.join ((suggest word vocabulary).map (· ++ "\n")))

def helpText : String :=
  "Usage: strudel-lsp (serve | check | suggest) [OPTIONS] [ARGUMENTS]\n"

def Surroundings.isFile (w : Surroundings) (p : Path) : Bool := (w.readFile p).isOk

/-- The files that a command line may lead to. -/
def neededFiles (args : List String) : List Path :=
  match Invocation.ofArguments? (fun _ => true) args with
  | some (.check o) => configPath o.root o.config :: o.paths
  | some (.serve o) => [configPath o.root o.config]
  | _ => []

/-- Runs what a command line asks for. Whether the parser can be let go and which characters the
output takes is up to them. -/
def run (w : Surroundings) (parser : Settings → Server.Parser) (args : List String)
    (closable : Bool := true) (takes : Char → Bool := fun _ => true) : Outcome :=
  match Invocation.ofArguments? w.isFile args with
  | none => .usageError
  | some .help => .printed helpText
  | some (.serve o) => runServe w o
  | some (.check o) => runCheck w parser closable takes o
  | some (.suggest word functions) => runSuggest word functions

end PatternServer.Command
