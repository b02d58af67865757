import PatternServer.Engine.Client

/-!
# Clients in a simulated world

Time moves only when it is told to, attempts to open a connection behave as they are told to, and
bytes arrive when they are sent. Between two commands sessions are not run: a command that settles
the world runs them until each of them waits.

Commands are for one client. A client that is replaced stays in the world, and its sessions and its
timer go on. The world keeps record of what all its clients have done, in the order in which they
did it.

Sessions run in the order in which they were begun, and timers that are due fire after them. This
is the order of a queue that is served first come, first served: a session that is asked to stop is
older than the one that replaces it, and only the newest of a client can receive anything.
-/

namespace PatternServer.Engine

set_option autoImplicit false

open PatternServer.Data PatternServer.Number PatternServer.Vocabulary

inductive AttemptMode where
  | succeed
  | refuse
  /-- The attempt is held until it is released, or until its session is asked to stop. -/
  | hold
  /-- The same, but when its session is asked to stop, the attempt succeeds. -/
  | holdFast
  | breakOnWrite
  | breakOnDrain
deriving Repr, DecidableEq, Inhabited

def AttemptMode.ofName? (s : String) : Option AttemptMode :=
  [("ok", AttemptMode.succeed), ("refuse", .refuse), ("hang", .hold), ("stubborn", .holdFast),
    ("write_error", .breakOnWrite), ("drain_error", .breakOnDrain)].lookup s

/-- Something that a client of the world has: the place of the client among all clients, and the
place of the thing among those of its client. -/
structure Ref where
  client : Nat
  place : Nat
deriving Repr, DecidableEq, Inhabited

/-- An attempt that is held, or was. -/
structure Gate where
  session : Ref
  fast : Bool
deriving Repr, DecidableEq, Inhabited

structure Simulation where
  /-- The clients that have been replaced, the oldest first. -/
  retired : List Client
  client : Client
  now : Double
  mode : AttemptMode
  gates : List Gate
  /-- Whether engines are found running. -/
  running : Bool
  /-- What the state file says. -/
  current : Option Descriptor
  /-- The sessions of all clients, in the order in which they were begun. -/
  sessions : List Ref
  connections : List Ref
  /-- The connections whose streams have ended. -/
  ended : List Ref
  /-- The hosts and ports of all attempts to open a connection. -/
  attempts : List (String × Int)
  warnings : List String
  /-- The changes that have been told, each with the place of its client. -/
  announced : List (Nat × Registry)
deriving Repr, DecidableEq, Inhabited

/-- Who listens to each of the clients, by their places. -/
abbrev Audience := Nat → Listener

def Audience.calm : Audience := fun _ _ => none

def refusedReason : String := "connection refused"

/-- Said when a connection breaks while it is read. -/
def resetReason : String := "reset"

/-- Said when a connection breaks while it takes what is written. -/
def drainReason : String := "connection reset"

def unwritableReason : String := "broken pipe"

/-- How fine the clock is: a timer fires when it is due before the clock can tell the next time from
now. -/
def clockResolution : Double := Double.ofDecimal false 1 (-9)

inductive Command where
  | start
  | discover (d : Option Descriptor)
  | connect (d : Descriptor)
  | schedule (d : Descriptor)
  | disconnect
  | shutdown
  | feed (text : List Char)
  | message (fields : List (String × Value))
  | setMode (mode : AttemptMode)
  /-- Changes what is given. -/
  | setWorld (running : Option Bool) (current : Option (Option Descriptor))
  | settle
  | advance (seconds : Double)
  | send (bytes : List UInt8) (connection : Int)
  | endStream (connection : Int)
  | breakStream (connection : Int)
  | release (gate : Int) (refuse : Bool)

inductive CommandError where
  | noSuchPlace
  /-- Nothing can be sent on a connection whose stream has ended. -/
  | streamEnded
  | unhandled (e : FeedError)
deriving Repr, DecidableEq, Inhabited

namespace Simulation

def ofClient (client : Client) : Simulation :=
  { retired := [], client, now := Double.zero, mode := .succeed, gates := [], running := true,
    current := none, sessions := [], connections := [], ended := [], attempts := [],
    warnings := [], announced := [] }

/-! The clients of the world. -/

def clients (s : Simulation) : List Client := s.retired ++ [s.client]

/-- The place of the client that commands are for. -/
def currentPlace (s : Simulation) : Nat := s.retired.length

/-- Puts another client into the place of the one that commands are for. -/
def replaceClient (s : Simulation) (client : Client) : Simulation :=
  { s with retired := s.retired ++ [s.client], client }

/-- References to the things that a client has got since it had `old` of them. -/
def added (client old new : Nat) : List Ref :=
  ((List.range new).drop old).map fun place => ⟨client, place⟩

/-- Lets a client go on from `before` to `after`, and keeps record of what it has done. -/
def update (s : Simulation) (k : Nat) (before after : Client) : Simulation :=
  { s with
    retired := s.retired.set k after
    client := if k = s.currentPlace then after else s.client
    sessions := s.sessions ++ added k before.sessions.length after.sessions.length
    connections := s.connections ++ added k before.connections.length after.connections.length
    attempts := s.attempts ++ after.attempts.drop before.attempts.length
    warnings := s.warnings ++ after.warnings.drop before.warnings.length
    announced :=
      s.announced ++ (after.announced.drop before.announced.length).map fun r => (k, r) }

def modifyClient (s : Simulation) (k : Nat) (f : Client → Client) : Simulation :=
  match s.clients[k]? with
  | none => s
  | some c => s.update k c (f c)

def modifyCurrent (s : Simulation) (f : Client → Client) : Simulation :=
  s.modifyClient s.currentPlace f

def session? (s : Simulation) (r : Ref) : Option Session :=
  (s.clients[r.client]?).bind fun c => c.sessions[r.place]?

/-! Running. -/

def sessionEvent (hear : Audience) (s : Simulation) (r : Ref) (e : SessionEvent) : Simulation :=
  s.modifyClient r.client fun c => c.sessionEvent (hear r.client) r.place e

def openingEnded (hear : Audience) (s : Simulation) (r : Ref) (o : Opening) : Simulation :=
  s.sessionEvent hear r (.openingEnded o)

/-- An attempt to open a connection, which ends at once unless it is held. -/
def attempt (hear : Audience) (s : Simulation) (r : Ref) : Simulation :=
  match s.mode with
  | .succeed => s.openingEnded hear r .opened
  | .refuse => s.openingEnded hear r (.refused refusedReason)
  | .hold => { s with gates := s.gates ++ [⟨r, false⟩] }
  | .holdFast => { s with gates := s.gates ++ [⟨r, true⟩] }
  | .breakOnWrite => s.openingEnded hear r (.openedUnwritable unwritableReason)
  | .breakOnDrain => s.openingEnded hear r (.openedBroken drainReason)

def beginSession (hear : Audience) (s : Simulation) (r : Ref) : Simulation :=
  let s := s.sessionEvent hear r .begun
  match s.session? r with
  | some session => if session.phase = .opening then s.attempt hear r else s
  | none => s

/-- Tells a session that it has been asked to stop. -/
def stopSession (hear : Audience) (s : Simulation) (r : Ref) (phase : Phase) : Simulation :=
  if phase = .opening && s.gates.any fun g => g.session == r && g.fast then
    s.openingEnded hear r .opened
  else s.sessionEvent hear r .stopped

/-- Runs a session that does not wait. -/
def runSession (hear : Audience) (s : Simulation) (r : Ref) : Simulation :=
  match s.session? r with
  | none => s
  | some session =>
    match session.phase with
    | .finished => s
    | .created => s.beginSession hear r
    | phase => if session.cancelled then s.stopSession hear r phase else s

/-- The timer that a client waits for, with when it is due. -/
def pendingTimer? (c : Client) : Option (Nat × Double) :=
  c.timer.bind fun k => (c.timers[k]?).map fun t => (k, t.due)

/-- The timers that are due, the earliest first, with their clients. -/
def dueTimers (s : Simulation) : List (Ref × Double) :=
  let pending := s.clients.zipIdx.filterMap fun (c, k) =>
    (pendingTimer? c).map fun t => (⟨k, t.1⟩, t.2)
  (pending.filter fun t => !(s.now.add clockResolution).le t.2).mergeSort
    fun a b => !b.2.lt a.2

def fireDueTimers (s : Simulation) : Simulation :=
  s.dueTimers.foldl (fun s t => s.modifyClient t.1.client fun c => c.fireTimer t.1.place) s

def arrive (hear : Audience) (s : Simulation) (arrival : Option (Ref × SessionEvent)) :
    Simulation :=
  match arrival with
  | none => s
  | some (r, e) => s.sessionEvent hear r e

/-- Runs every session once, then what has arrived, then the timers. -/
def turn (hear : Audience) (s : Simulation) (arrival : Option (Ref × SessionEvent)) :
    Simulation :=
  ((s.sessions.foldl (runSession hear) s).arrive hear arrival).fireDueTimers

/-- Runs everything until it waits. The second turn is for the sessions that timers have begun; no
timer is set while the world settles. -/
def settleWith (hear : Audience) (s : Simulation) (arrival : Option (Ref × SessionEvent)) :
    Simulation :=
  (s.turn hear arrival).turn hear none

def settle (hear : Audience) (s : Simulation) : Simulation := s.settleWith hear none

/-! Commands. -/

/-- The place in a list of some length that a number means, from the end if it is negative. -/
def place? (length : Nat) (i : Int) : Option Nat :=
  let k := if i < 0 then i + length else i
  if 0 ≤ k ∧ k < length then some k.toNat else none

def item? {α : Type} (l : List α) (i : Int) : Option α :=
  (place? l.length i).bind fun k => l[k]?

/-- The session that waits for data of a connection, unless it has been asked to stop. -/
def reader? (s : Simulation) (connection : Ref) : Option Ref :=
  s.sessions.find? fun r =>
    r.client == connection.client && (s.session? r).any fun session =>
      session.phase == .reading connection.place && !session.cancelled

/-- Something arrives on a connection, and everything runs. -/
def deliverTo (hear : Audience) (s : Simulation) (connection : Ref) (e : SessionEvent) :
    Simulation :=
  s.settleWith hear ((s.reader? connection).map fun r => (r, e))

def onConnection (s : Simulation) (i : Int) (f : Ref → Simulation × Option CommandError) :
    Simulation × Option CommandError :=
  match item? s.connections i with
  | none => (s, some .noSuchPlace)
  | some connection => f connection

def send (hear : Audience) (s : Simulation) (bytes : List UInt8) (connection : Ref) :
    Simulation × Option CommandError :=
  if s.ended.contains connection then (s, some .streamEnded)
  else (s.deliverTo hear connection (.received bytes), none)

def endStream (hear : Audience) (s : Simulation) (connection : Ref) : Simulation :=
  ({ s with ended := connection :: s.ended }).deliverTo hear connection .streamEnded

/-- The session that an attempt is still held for. -/
def held? (s : Simulation) (g : Gate) : Option Ref :=
  match s.session? g.session with
  | some session =>
    if session.phase = .opening ∧ session.cancelled = false then some g.session else none
  | none => none

/-- Releases a held attempt, and everything runs. -/
def release (hear : Audience) (s : Simulation) (gate : Int) (refuse : Bool) :
    Simulation × Option CommandError :=
  match item? s.gates gate with
  | none => (s, some .noSuchPlace)
  | some g =>
    let o := if refuse then Opening.refused refusedReason else .opened
    (s.settleWith hear ((s.held? g).map fun r => (r, .openingEnded o)), none)

def liveness (s : Simulation) : Liveness :=
  if s.running then .running else .stopped

/-- Takes over what the client that commands are for has come to, and what went wrong. -/
def withCurrent (s : Simulation) (r : Client × Option FeedError) :
    Simulation × Option CommandError :=
  (s.modifyCurrent fun _ => r.1, r.2.map .unhandled)

def run (hear : Audience) (s : Simulation) (command : Command) :
    Simulation × Option CommandError :=
  let listener := hear s.currentPlace
  match command with
  | .start => (s.modifyCurrent fun c => c.start s.current s.liveness, none)
  | .discover d => (s.modifyCurrent fun c => c.discover s.now d s.liveness, none)
  | .connect d => (s.modifyCurrent fun c => c.connect d, none)
  | .schedule d => (s.modifyCurrent fun c => c.scheduleReconnect s.now d, none)
  | .disconnect => (s.modifyCurrent Client.disconnect, none)
  | .shutdown => (s.modifyCurrent Client.shutdown, none)
  | .feed text => s.withCurrent (s.client.feed listener text)
  | .message fields =>
    let r := s.client.handleFields listener fields
    s.withCurrent (r.1, r.2.map .listener)
  | .setMode mode => ({ s with mode }, none)
  | .setWorld running current =>
    ({ s with running := running.getD s.running, current := current.getD s.current }, none)
  | .settle => (s.settle hear, none)
  | .advance seconds => (({ s with now := s.now.add seconds }).settle hear, none)
  | .send bytes i => s.onConnection i fun connection => s.send hear bytes connection
  | .endStream i => s.onConnection i fun connection => (s.endStream hear connection, none)
  | .breakStream i =>
    s.onConnection i fun connection => (s.deliverTo hear connection (.broken resetReason), none)
  | .release gate refuse => s.release hear gate refuse

/-- The end of the world: all sessions that are not over are asked to stop, and if there are any,
everything runs once more. A timer that is due may then still begin a session. -/
def windDown (s : Simulation) : Simulation :=
  let live := s.sessions.filter fun r =>
    (s.session? r).any fun session => session.phase != .finished
  if live.isEmpty then s
  else
    (live.foldl (fun s r => s.modifyClient r.client fun c => c.cancelSession r.place) s).settle
      Audience.calm

/-! Views. -/

def connectionList (s : Simulation) : List Connection :=
  s.connections.filterMap fun r => (s.clients[r.client]?).bind fun c => c.connections[r.place]?

def watchInterval (s : Simulation) : Option Double :=
  s.clients.reverse.findSome? Client.watchInterval

def watchStops (s : Simulation) : Nat :=
  s.clients.foldl (fun n c => n + c.watchStops) 0

end Simulation

end PatternServer.Engine
