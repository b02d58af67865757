import PatternServer.Diagnostics.Published
import PatternServer.Diagnostics.Validate
import PatternServer.Editor.CodeAction
import PatternServer.Editor.Completion
import PatternServer.Editor.Hover
import PatternServer.Editor.SignatureHelp
import PatternServer.Engine.Simulation
import PatternServer.Server.Workspace
import PatternServer.Settings.Load

/-!
# The language server

The server keeps the documents of the editor, the diagnostics it has published for them and the
client of the engine. Every change of a document, and every change of the vocabulary by the engine,
leads to new diagnostics. What the server sends and logs is appended to two lists.

The text of a document that is not open is read from its file. The notation parser and the files are
arguments of every operation that needs them.
-/

namespace PatternServer

set_option autoImplicit false

open PatternServer.Document PatternServer.Diagnostics PatternServer.Editor PatternServer.Engine
open PatternServer.Files PatternServer.Notation PatternServer.Settings PatternServer.Text
open PatternServer.Vocabulary

namespace Server

abbrev Parser := List Char → Except Refusal (List Leaf)

structure Resources where
  parser : Parser
  readFile : Path → Except FileError (List UInt8)

inductive Notification where
  | diagnostics (uri : String) (diagnostics : List Diagnostic)
  | logMessage (message : String)
deriving Repr, DecidableEq, Inhabited

inductive LogSource where
  | server
  | engineClient
deriving Repr, DecidableEq, Inhabited

def LogSource.name : LogSource → String
  | .server => "strudel_lsp.server"
  | .engineClient => "strudel_lsp.engine_client"

structure LogRecord where
  source : LogSource
  message : String
deriving Repr, DecidableEq, Inhabited

def LogRecord.line (r : LogRecord) : String :=
  "WARNING " ++ r.source.name ++ ": " ++ r.message

inductive ServerError where
  /-- The document is not open, and its file cannot be read. -/
  | file (e : FileError) (path : Path)
  /-- The document is not open, and its file is not in UTF-8. -/
  | fileNotText
  /-- The document to be changed is not open. -/
  | notOpen
  | badUri
  | tooManyDigits
  | settings (e : LoadError)
  | engine (e : CommandError)
deriving Repr, DecidableEq, Inhabited

/-- What an error means to the engine client, if it comes up while the client tells of a change. -/
def ServerError.trouble : ServerError → Trouble
  | .file e path =>
    match e.report? path with
    | some report => .system report
    | none => .other
  | _ => .other

end Server

structure Server where
  settings : Settings
  /-- Whether the settings were chosen at the start and the workspace cannot change them. -/
  pinned : Bool
  level : LogLevel
  workspace : Server.Workspace
  published : Published
  engine : Simulation
  sent : List Server.Notification
  log : List Server.LogRecord
  /-- How often the parser has been let go. -/
  parserCloses : Nat

namespace Server

/-- The names known under some settings. -/
def registryOf (s : Settings) : Registry :=
  Registry.ofNames (Catalog.sampleNames ++ s.extraSamples) Catalog.bankNames Catalog.functions
    s.nonSampleFunctions

def clientSettings (s : Settings) : ClientSettings :=
  ⟨s.engine.host, s.engine.settleDelay, s.engine.pollInterval, true⟩

def ofSettings (settings : Settings) (pinned : Bool) (encoding : Encoding)
    (rules : Workspace.Rules := .decoding) : Server :=
  { settings, pinned
    level := .info
    workspace := Workspace.empty rules encoding
    published := Published.empty
    engine := Simulation.ofClient (Client.ofRegistry (clientSettings settings)
      (registryOf settings))
    sent := []
    log := []
    parserCloses := 0 }

def registry (s : Server) : Registry := s.engine.client.registry

def encoding (s : Server) : Encoding := s.workspace.encoding

def send (s : Server) (n : Notification) : Server :=
  { s with sent := s.sent ++ [n] }

/-- Logs a warning, unless only graver records are wanted. -/
def warn (s : Server) (source : LogSource) (message : String) : Server :=
  if s.level.rank ≤ LogLevel.warning.rank then { s with log := s.log ++ [⟨source, message⟩] }
  else s

/-! Texts. -/

/-- The text in the file of a document, with its line ends unified. -/
def textInFile (r : Resources) (s : Server) (uri : String) : Except ServerError (List Char) :=
  match s.workspace.rules.path? uri with
  | none => .error .badUri
  | some path =>
    match r.readFile path with
    | .error e => .error (.file e path)
    | .ok bytes =>
      match Utf8.decode? bytes with
      | none => .error .fileNotText
      | some text => .ok (unifyLineEnds text)

/-- The text of a document: the editor's, or else that of its file. -/
def document (r : Resources) (s : Server) (uri : String) : Except ServerError (List Char) :=
  match s.workspace.text? uri with
  | some text => .ok text
  | none => s.textInFile r uri

/-! Diagnostics. -/

/-- Validates a document under some registry and publishes the result. -/
def validateWith (r : Resources) (registry : Registry) (s : Server) (uri : String) :
    Server × Option ServerError :=
  match s.document r uri with
  | .error e => (s, some e)
  | .ok text =>
    match validate (parseWith r.parser) ⟨text, s.encoding, registry⟩ with
    | .error .tooManyDigits => (s, some .tooManyDigits)
    | .ok report =>
      (({ s with published := s.published.publish uri report }).send
        (.diagnostics uri report.diagnostics), none)

def validateThese (r : Resources) (registry : Registry) (s : Server) :
    List String → Server × Option ServerError
  | [] => (s, none)
  | uri :: rest =>
    match s.validateWith r registry uri with
    | (s, none) => s.validateThese r registry rest
    | (s, some e) => (s, some e)

def revalidate (r : Resources) (s : Server) : Server × Option ServerError :=
  s.validateThese r s.registry s.workspace.keys

/-! Documents. -/

/-- Opens a document, unless its URI is ill-formed. -/
def openDocument (r : Resources) (s : Server) (uri : String) (text : List Char) :
    Server × Option ServerError :=
  match s.workspace.rules.path? uri with
  | none => (s, some .badUri)
  | some _ =>
    ({ s with workspace := s.workspace.openDocument uri text }).validateWith r s.registry uri

def changeDocument (r : Resources) (s : Server) (uri : String) (changes : List Change) :
    Server × Option ServerError :=
  match s.workspace.changeAll uri changes with
  | (workspace, true) => ({ s with workspace }).validateWith r s.registry uri
  | (workspace, false) => ({ s with workspace }, some .notOpen)

/-- Closes a document; its diagnostics are taken back. -/
def closeDocument (s : Server) (uri : String) : Server :=
  ({ s with
      workspace := s.workspace.closeDocument uri
      published := s.published.drop uri }).send (.diagnostics uri [])

/-! Requests. -/

def diagnosticsOf (s : Server) (uri : String) : List Diagnostic :=
  ((s.published.get? uri).map (·.diagnostics)).getD []

def codeActions (s : Server) (uri : String) (diagnostics : List Diagnostic) : List CodeAction :=
  Editor.codeActions uri diagnostics s.published

end Server

end PatternServer
