import PatternServer.Engine.Descriptor
import PatternServer.Engine.Message
import PatternServer.Number.Shortest
import PatternServer.Text.Split

/-!
# The engine client

The client keeps the registry in step with a running engine. It has at most one session, which opens
a connection, asks for the vocabulary and then reads messages, and at most one timer for the next
session. A new session or timer replaces the old one.

The client is a machine. What is done to it from outside are its operations; what happens to a
session are `SessionEvent`s, which may come in any order, also to a session that has been replaced.
Everything the client ever had is kept: sessions, connections and timers are named by their place
in a list.
-/

namespace PatternServer.Engine

set_option autoImplicit false

open PatternServer.Data PatternServer.Number PatternServer.Text PatternServer.Vocabulary

inductive ConnectionState where
  | disconnected
  | connecting
  | connected
deriving Repr, DecidableEq, Inhabited

def ConnectionState.name : ConnectionState → String
  | .disconnected => "disconnected"
  | .connecting => "connecting"
  | .connected => "connected"

/-- How far a session has come. -/
inductive Phase where
  | created
  /-- It waits for its connection to open. -/
  | opening
  /-- It waits for data. -/
  | reading (connection : Nat)
  | finished
deriving Repr, DecidableEq, Inhabited

structure Session where
  descriptor : Descriptor
  phase : Phase
  /-- Whether the session has been asked to stop. -/
  cancelled : Bool
deriving Repr, DecidableEq, Inhabited

structure Connection where
  sent : String
  /-- How often it has been closed. -/
  closes : Nat
deriving Repr, DecidableEq, Inhabited

inductive TimerStatus where
  | pending
  | fired
  | cancelled
deriving Repr, DecidableEq, Inhabited

/-- A session to be begun later. -/
structure Timer where
  due : Double
  descriptor : Descriptor
  status : TimerStatus
deriving Repr, DecidableEq, Inhabited

structure ClientSettings where
  host : String
  settleDelay : Double
  pollInterval : Double
  /-- Whether anyone is told of changes of the registry. -/
  announces : Bool
deriving Repr, DecidableEq, Inhabited

structure Client where
  settings : ClientSettings
  /-- How deep the values on a line may be. -/
  nesting : Nat
  registry : Registry
  state : ConnectionState
  descriptor : Option Descriptor
  session : Option Nat
  writer : Option Nat
  /-- The text received after the last line end. -/
  buffer : List Char
  decoder : Utf8State
  timer : Option Nat
  /-- Whether the client has a watch on the state file that it can stop. -/
  watching : Bool
  closed : Bool
  sessions : List Session
  connections : List Connection
  timers : List Timer
  /-- The hosts and ports of all attempts to open a connection. -/
  attempts : List (String × Int)
  /-- The registries of which changes have been told. -/
  announced : List Registry
  warnings : List String
  /-- The interval of the last watch. -/
  watchInterval : Option Double
  /-- How often a watch has been stopped. -/
  watchStops : Nat
deriving Repr, DecidableEq, Inhabited

/-- What goes wrong when someone is told of a change of the registry. -/
inductive Trouble where
  /-- The system reports an error. -/
  | system (report : String)
  | other
deriving Repr, DecidableEq, Inhabited

/-- Whoever is told of changes of the registry, as what goes wrong then. -/
abbrev Listener := Registry → Option Trouble

inductive FeedError where
  | line (e : JsonError)
  | listener (t : Trouble)
deriving Repr, DecidableEq, Inhabited

inductive Opening where
  | opened
  /-- The connection opens, but nothing can be written to it. -/
  | openedUnwritable (reason : String)
  /-- The connection opens and takes the requests, but breaks then. -/
  | openedBroken (reason : String)
  | refused (reason : String)
  /-- Opening fails in a way that is no refusal. -/
  | failed
deriving Repr, DecidableEq, Inhabited

inductive SessionEvent where
  /-- It runs for the first time and tries to open its connection. -/
  | begun
  | openingEnded (o : Opening)
  | received (bytes : List UInt8)
  | streamEnded
  | broken (reason : String)
  /-- It learns that it has been asked to stop. -/
  | stopped
deriving Repr, DecidableEq, Inhabited

namespace Client

def ofRegistry (settings : ClientSettings) (registry : Registry) (nesting : Nat := usualRoom) :
    Client :=
  { settings, nesting, registry, state := .disconnected, descriptor := none, session := none,
    writer := none, buffer := [], decoder := .ground, timer := none, watching := false,
    closed := false, sessions := [], connections := [], timers := [], attempts := [],
    announced := [], warnings := [], watchInterval := none, watchStops := 0 }

/-! Parts of operations. -/

def resetBuffer (c : Client) : Client :=
  { c with buffer := [], decoder := .ground }

def closeConnection (c : Client) (k : Nat) : Client :=
  { c with connections := c.connections.modify k fun w => { w with closes := w.closes + 1 } }

/-- Closes the connection that the client writes to, if there is one, and lets go of it. -/
def dropWriter (c : Client) : Client :=
  match c.writer with
  | none => c
  | some k => { c.closeConnection k with writer := none }

/-- Asks a session to stop, unless it is over. -/
def cancelSession (c : Client) (k : Nat) : Client :=
  { c with
    sessions := c.sessions.modify k fun s =>
      if s.phase = .finished then s else { s with cancelled := true } }

def setPhase (c : Client) (k : Nat) (p : Phase) : Client :=
  { c with sessions := c.sessions.modify k fun s => { s with phase := p } }

def setTimerStatus (c : Client) (k : Nat) (status : TimerStatus) : Client :=
  { c with timers := c.timers.modify k fun t => { t with status } }

def warn (c : Client) (message : String) : Client :=
  { c with warnings := c.warnings ++ [message] }

/-- The state without a session. -/
def forget (c : Client) : Client :=
  { c.dropWriter.resetBuffer with state := .disconnected, descriptor := none, session := none }

/-! Operations. -/

def cancelTimer (c : Client) : Client :=
  match c.timer with
  | none => c
  | some k => { c.setTimerStatus k .cancelled with timer := none }

def disconnect (c : Client) : Client :=
  match c.session with
  | none => c.forget
  | some k => (c.cancelSession k).forget

/-- Begins a session; the timer and the session before it are given up. -/
def connect (c : Client) (d : Descriptor) : Client :=
  let c := c.cancelTimer.disconnect
  { c with
    state := .connecting
    descriptor := some d
    session := some c.sessions.length
    sessions := c.sessions ++ [⟨d, .created, false⟩] }

/-- Plans a session for when the settling time has passed. -/
def scheduleReconnect (c : Client) (now : Double) (d : Descriptor) : Client :=
  let c := c.cancelTimer
  { c with
    timer := some c.timers.length
    timers := c.timers ++ [⟨now.add c.settings.settleDelay, d, .pending⟩] }

/-- Lets a timer begin its session, unless it has fired or been given up. -/
def fireTimer (c : Client) (k : Nat) : Client :=
  match c.timers[k]? with
  | none => c
  | some t =>
    if t.status = .pending then
      let c := { c.setTimerStatus k .fired with timer := none }
      if c.closed then c else c.connect t.descriptor
    else c

def watch (c : Client) : Client :=
  { c with watching := true, watchInterval := some c.settings.pollInterval }

/-- Takes a report on the engine: where it is said to be, and whether it runs there. If this cannot
be told, the question fails before anything is done. -/
def discover (c : Client) (now : Double) (d : Option Descriptor) (liveness : Liveness) : Client :=
  if c.closed then c
  else
    match d, liveness with
    | some d, .running =>
      if c.descriptor = some d ∧ c.state ≠ .disconnected then c else c.scheduleReconnect now d
    | some _, .unknown => c
    | _, _ => c.cancelTimer.disconnect

/-- Connects to the engine that runs, if one does, and begins to watch. If it cannot be told whether
the engine runs, the question fails before anything is done. -/
def start (c : Client) (d : Option Descriptor) (liveness : Liveness) : Client :=
  match d, liveness with
  | some d, .running => (c.connect d).watch
  | some _, .unknown => c
  | _, _ => c.watch

def shutdown (c : Client) : Client :=
  if c.closed then c
  else
    let c :=
      if c.watching then { c with watching := false, watchStops := c.watchStops + 1 } else c
    ({ c with closed := true }).cancelTimer.disconnect

/-! Received text. -/

/-- Takes a message into the registry and then tells of it. -/
def accept (hear : Listener) (c : Client) (m : Message) : Client × Option Trouble :=
  let registry := m.apply c.registry
  if c.settings.announces then
    ({ c with registry, announced := c.announced ++ [registry] }, hear registry)
  else ({ c with registry }, none)

def handleFields (hear : Listener) (c : Client) (fields : List (String × Value)) :
    Client × Option Trouble :=
  match Message.ofFields? fields with
  | some m => c.accept hear m
  | none => (c, none)

def handleLine (hear : Listener) (c : Client) (line : List Char) : Client × Option FeedError :=
  match Message.ofLine? c.nesting line with
  | .error e => (c, some (.line e))
  | .ok none => (c, none)
  | .ok (some m) =>
    let told := c.accept hear m
    (told.1, told.2.map .listener)

/-- Handles lines one after the other, the last piece being the beginning of a line that has not
ended yet. After a line that fails everything behind it stays in the buffer. -/
def handlePieces (hear : Listener) (c : Client) : List (List Char) → Client × Option FeedError
  | [] => ({ c with buffer := [] }, none)
  | [last] => ({ c with buffer := last }, none)
  | line :: rest =>
    match c.handleLine hear line with
    | (c, none) => c.handlePieces hear rest
    | (c, some e) => ({ c with buffer := joinWith ['\n'] rest }, some e)

/-- Takes received text: every line that is complete now is handled. -/
def feed (hear : Listener) (c : Client) (text : List Char) : Client × Option FeedError :=
  c.handlePieces hear (splitOn '\n' (c.buffer ++ text))

/-- Takes received bytes, of which the last ones may be the beginning of a character. -/
def feedBytes (hear : Listener) (c : Client) (bytes : List UInt8) : Client × Option FeedError :=
  let decoded := Utf8.decodePiece c.decoder bytes
  ({ c with decoder := decoded.2 }).feed hear decoded.1

/-! Sessions. -/

def finish (c : Client) (k : Nat) : Client :=
  c.setPhase k .finished

/-- Ends a session, and with it the connection if the session is still the client's. -/
def closeSession (c : Client) (k : Nat) : Client :=
  (if c.session = some k then c.forget else c).finish k

def addConnection (c : Client) : Client :=
  { c with connections := c.connections ++ [⟨"", 0⟩] }

def send (c : Client) (k : Nat) (text : String) : Client :=
  { c with connections := c.connections.modify k fun w => { w with sent := w.sent ++ text } }

def firstRequests : String :=
  String.join (Topic.all.map Topic.request)

def connectionWarning (reason : String) : String :=
  "engine connection error: " ++ reason

/-- A session gets its connection, and closes it at once if it is no longer the client's. -/
def opened (c : Client) (k : Nat) (o : Opening) : Client :=
  let w := c.connections.length
  let c := c.addConnection
  if c.session = some k then
    let c := { c with writer := some w, state := .connected }
    match o with
    | .openedUnwritable reason => (c.warn (connectionWarning reason)).closeSession k
    | .openedBroken reason =>
      ((c.send w firstRequests).warn (connectionWarning reason)).closeSession k
    | _ => (c.send w firstRequests).setPhase k (.reading w)
  else (c.closeConnection w).finish k

def openingEnded (c : Client) (k : Nat) (d : Descriptor) (o : Opening) : Client :=
  match o with
  | .refused reason =>
    (c.warn ("cannot connect to engine on port " ++ String.ofList (intChars d.port) ++ ": " ++
      reason)).closeSession k
  | .failed => c.finish k
  | _ => c.opened k o

/-- A session reads. Whatever fails ends it; an error of the system passes for one of the
connection. -/
def received (hear : Listener) (c : Client) (k : Nat) (bytes : List UInt8) : Client :=
  match c.feedBytes hear bytes with
  | (c, none) => c
  | (c, some (.listener (.system report))) => (c.warn (connectionWarning report)).closeSession k
  | (c, some _) => c.closeSession k

/-- What an event does to a session in a phase. A reading session that has been asked to stop sees
only that of its events. -/
def react (hear : Listener) (c : Client) (k : Nat) (s : Session) (e : SessionEvent) : Client :=
  match s.phase, e with
  | .created, .begun =>
    if s.cancelled then c.finish k
    else
      ({ c with attempts := c.attempts ++ [(c.settings.host, s.descriptor.port)] }).setPhase k
        .opening
  | .created, .stopped => c.finish k
  | .opening, .openingEnded o => c.openingEnded k s.descriptor o
  | .opening, .stopped => c.finish k
  | .reading _, .received bytes =>
    if s.cancelled then c.closeSession k else c.received hear k bytes
  | .reading _, .streamEnded => c.closeSession k
  | .reading _, .broken reason =>
    if s.cancelled then c.closeSession k
    else (c.warn (connectionWarning reason)).closeSession k
  | .reading _, .stopped => c.closeSession k
  | _, _ => c

def sessionEvent (hear : Listener) (c : Client) (k : Nat) (e : SessionEvent) : Client :=
  match c.sessions[k]? with
  | none => c
  | some s => c.react hear k s e

/-! Views. -/

def isPending (c : Client) : Bool := c.timer.isSome

end Client

end PatternServer.Engine
