import PatternServer.Server.Basic

/-!
# The life of a server

Initialization with the workspace's own settings, the start and the end of the engine client, and
what the engine does in between.
-/

namespace PatternServer.Server

set_option autoImplicit false

open PatternServer.Data PatternServer.Diagnostics PatternServer.Engine PatternServer.Files
open PatternServer.Settings PatternServer.Vocabulary

/-- Puts other settings into force. The published diagnostics and the engine's names are gone, and a
new engine client takes the place of the old one, which goes on with what it has begun. -/
def configure (s : Server) (settings : Settings) : Server :=
  { s with
    settings
    published := Published.empty
    engine := s.engine.replaceClient
      (Client.ofRegistry (clientSettings settings) (registryOf settings)) }

/-- The name of the level that the options of the editor or else the settings ask for. -/
def levelName (s : Server) (options : Value) : Except ServerError String :=
  match options.get? "logLevel" with
  | some v =>
    if v.isGiven then
      match v.display? with
      | some name => .ok name
      | none => .error .tooManyDigits
    else .ok s.settings.logLevel
  | none => .ok s.settings.logLevel

/-- The registry under which everything is validated when a client of the engine tells of a change:
the one it tells of, or the server's own if the client has been replaced. -/
def registryFor (s : Server) (client : Nat) (registry : Registry) : Registry :=
  if client = s.engine.currentPlace then registry else s.registry

/-- What goes wrong when the engine clients tell of changes. -/
def audience (r : Resources) (s : Server) : Audience := fun client registry =>
  (s.validateThese r (s.registryFor client registry) s.workspace.keys).2.map ServerError.trouble

/-- Validates everything once for each of some changes, and gives the last error. -/
def revalidateFor (r : Resources) (s : Server) :
    List (Nat × Registry) → Server × Option ServerError
  | [] => (s, none)
  | change :: rest =>
    let validated := s.validateThese r (s.registryFor change.1 change.2) s.workspace.keys
    let later := validated.1.revalidateFor r rest
    (later.1, later.2 <|> validated.2)

/-- Takes over what the engine clients have done: their warnings are logged, and for every change of
the vocabulary everything is validated. -/
def follow (r : Resources) (s : Server) (engine : Simulation) : Server × Option ServerError :=
  let warnings := engine.warnings.drop s.engine.warnings.length
  let changes := engine.announced.drop s.engine.announced.length
  let s := warnings.foldl (fun (s : Server) message => s.warn .engineClient message)
    { s with engine }
  s.revalidateFor r changes

/-- Does something to the engine client or to its world. An error in a session ends the session and
is no error of the command. -/
def runEngine (r : Resources) (s : Server) (command : Command) : Server × Option ServerError :=
  let done := s.engine.run (s.audience r) command
  let followed := s.follow r done.1
  match done.2 with
  | none => (followed.1, none)
  | some (.unhandled (.listener t)) =>
    (followed.1, some (followed.2.getD (.engine (.unhandled (.listener t)))))
  | some e => (followed.1, some (.engine e))

/-- The editor is ready: it is greeted, and the engine client starts. -/
def initialized (r : Resources) (s : Server) : Server × Option ServerError :=
  let s := s.send (.logMessage "Strudel LSP initialized")
  match s.runEngine r .start with
  | (s, none) => s.runEngine r .settle
  | failed => failed

/-- The end: the engine client stops for good, and the parser is let go. -/
def shutdown (r : Resources) (s : Server) : Server × Option ServerError :=
  match s.runEngine r .shutdown with
  | (s, none) => ({ s with parserCloses := s.parserCloses + 1 }, none)
  | failed => failed

end PatternServer.Server
