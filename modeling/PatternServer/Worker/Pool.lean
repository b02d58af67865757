import PatternServer.Diagnostics.Validate
import PatternServer.Number.Double
import PatternServer.Worker.Child

/-!
# The parser worker and its restarts

A parser that runs in a worker process. The process is started on first use and again after it has
ended. If the system once fails to start a named command, it is never tried again. A worker that
cannot be waited for or has no pipes is killed, and for a while after that no new one is started.
Requests carry numbers that only grow, over all processes.
-/

namespace PatternServer.Worker

set_option autoImplicit false

open PatternServer.Notation PatternServer.Number

/-- Why there is no reply. -/
inductive Unavailable where
  | spawnFailed (command reason : String)
  /-- Starting failed, and the command is empty. -/
  | noCommand
  /-- Starting failed in a way that is no error of the system. -/
  | spawnFaulted (reason : String)
  | restarting
  | noPipes
  /-- The request could not be written. -/
  | gone
  /-- The output ended, the process having this exit code then. -/
  | exited (code : Option Int)
  | timedOut
  | unwaitable (reason : String)
  /-- Waiting or reading failed in a way that nobody is prepared for. -/
  | readFaulted (reason : String)
  /-- The call does not come back. -/
  | stalled
deriving Repr, DecidableEq, Inhabited

def exitCodeText : Option Int → String
  | none => "None"
  | some code => String.ofList (intChars code)

def Unavailable.message : Unavailable → String
  | .spawnFailed command reason =>
    "cannot start mini-notation parser (" ++ command ++ "): " ++ reason
  | .noCommand => "tuple index out of range"
  | .spawnFaulted reason => reason
  | .restarting => "mini-notation parser is restarting"
  | .noPipes => "mini-notation parser worker has no pipes"
  | .gone => "mini-notation parser worker exited"
  | .exited code => "mini-notation parser worker exited (code " ++ exitCodeText code ++ ")"
  | .timedOut => "mini-notation parser timed out"
  | .unwaitable reason => "cannot wait for mini-notation parser: " ++ reason
  | .readFaulted reason => reason
  | .stalled => ""

/-- Whether whoever asked is told that the parser cannot be had. -/
def Unavailable.isReported : Unavailable → Bool
  | .noCommand | .spawnFaulted _ | .readFaulted _ | .stalled => false
  | _ => true

/-- Why a pattern is not accepted. -/
inductive Rejection where
  | unavailable (error : Unavailable)
  | syntaxError (report : SyntaxReport)
deriving Inhabited

/-- What a rejection means to whoever asked. A call that does not come back has no meaning. -/
def Rejection.refusal : Rejection → Refusal
  | .unavailable error =>
    if error.isReported then .unavailable error.message
    else .syntaxError (.ofMessage error.message)
  | .syntaxError report => .syntaxError report

/-- What the next attempt to start a process gives. -/
inductive Supply where
  | child (p : Child)
  | failure (reason : String)
  /-- Starting fails in a way that is no error of the system. -/
  | fault (reason : String)
deriving Repr, Inhabited

structure Launch where
  command : List String
  module : String
  restartDelay : Double
  directory : Option String
deriving Repr, DecidableEq, Inhabited

/-- The command line of a start, up to the program that the worker is to run. -/
def Launch.arguments (l : Launch) : List String :=
  l.command ++ ["--input-type=module", "-e"]

/-- The parser with all processes it ever had, the time, and the processes still to be had. -/
structure Pool where
  launch : Launch
  supply : List Supply
  clock : Double
  children : List Child
  current : Option Nat
  lastId : Nat
  spawnError : Option Unavailable
  retryAt : Option Double
  attempts : Nat
deriving Repr, Inhabited

namespace Pool

def ofSupply (launch : Launch) (clock : Double) (supply : List Supply) : Pool :=
  { launch, supply, clock, children := [], current := none, lastId := 0, spawnError := none,
    retryAt := none, attempts := 0 }

def advance (pool : Pool) (seconds : Double) : Pool :=
  { pool with clock := pool.clock.add seconds }

def child? (pool : Pool) (k : Nat) : Option Child :=
  pool.children[k]?

def modify (pool : Pool) (k : Nat) (f : Child → Child) : Pool :=
  { pool with children := pool.children.modify k f }

/-- Whether a new process may not be started yet. -/
def isRestarting (pool : Pool) : Bool :=
  match pool.retryAt with
  | some t => pool.clock.lt t
  | none => false

/-- The current process, if it still runs. -/
def running? (pool : Pool) : Option Nat :=
  pool.current.filter fun k => (pool.child? k).any Child.isRunning

def spawn (pool : Pool) : Except Unavailable Nat × Pool :=
  let pool := { pool with attempts := pool.attempts + 1, retryAt := none }
  match pool.supply with
  | .child p :: rest =>
    let k := pool.children.length
    (.ok k, { pool with supply := rest, children := pool.children ++ [p], current := some k })
  | .fault reason :: rest => (.error (.spawnFaulted reason), { pool with supply := rest })
  | supply =>
    let reason :=
      match supply with
      | .failure reason :: _ => reason
      | _ => "no more processes"
    let pool := { pool with supply := supply.drop 1 }
    match pool.launch.command with
    | [] => (.error .noCommand, pool)
    | command :: _ =>
      let error := Unavailable.spawnFailed command reason
      (.error error, { pool with spawnError := some error })

/-- A process to write to: the current one, or a new one if that is allowed. -/
def ensure (pool : Pool) : Except Unavailable Nat × Pool :=
  match pool.spawnError with
  | some error => (.error error, pool)
  | none =>
    match pool.running? with
    | some k => (.ok k, pool)
    | none => if pool.isRestarting then (.error .restarting, pool) else pool.spawn

/-- Kills a process and puts off the next start. -/
def discard (pool : Pool) (k : Nat) (now : Double) : Pool :=
  { pool.modify k Child.kill with
    clock := now
    current := pool.current.filter (· ≠ k)
    retryAt := some (now.add pool.launch.restartDelay) }

/-- Lets go of a process that has ended its output or takes no more input. -/
def release (pool : Pool) (k : Nat) : Pool :=
  { pool.modify k Child.part with current := none }

/-- Reads the reply to a request that has been written. The lines before it are lost; without a
reply every line that comes in time is. -/
def awaitReply (pool : Pool) (k id : Nat) (later : Double) : Except Unavailable Reply × Pool :=
  match pool.child? k with
  | none => (.error .noPipes, pool)
  | some p =>
    match Child.findReply? id p.timely with
    | some (i, reply) => (.ok reply, pool.modify k (·.skip (i + 1)))
    | none =>
      let pool := pool.modify k (·.skip p.timely.length)
      match p.output with
      | .silent => (.error .timedOut, pool.discard k later)
      | .unwaitable reason => (.error (.unwaitable reason), pool.discard k later)
      | .failing reason => (.error (.readFaulted reason), pool)
      | .endless => (.error .stalled, pool)
      | _ => (.error (.exited p.part.exitCode), pool.release k)

/-- Sends a request and reads the reply to it. The clock may go on in the meantime, and shows
`later` when the process is given up. -/
def request (pool : Pool) (kind : RequestKind) (input : List Char)
    (later : Double := pool.clock) : Except Unavailable Reply × Pool :=
  match pool.ensure with
  | (.error error, pool) => (.error error, pool)
  | (.ok k, pool) =>
    match pool.child? k with
    | none => (.error .noPipes, pool)
    | some p =>
      if p.hasPipes then
        let id := pool.lastId + 1
        let pool := { pool with lastId := id }
        if p.isBroken then (.error .gone, pool.release k)
        else if p.isFull then (.error .stalled, pool)
        else (pool.modify k (·.write ⟨id, kind, input⟩)).awaitReply k id later
      else
        (.error .noPipes, pool.discard k later)

/-- A reply that is wanted, or why there is none. -/
def accepted (result : Except Unavailable Reply) : Except Rejection Reply :=
  match result with
  | .error error => .error (.unavailable error)
  | .ok reply => if reply.ok then .ok reply else .error (.syntaxError reply.report)

def parse (pool : Pool) (quoted : List Char) (later : Double := pool.clock) :
    Except Rejection Unit × Pool :=
  let r := pool.request .parse quoted later
  ((accepted r.1).map fun _ => (), r.2)

def leaves (pool : Pool) (quoted : List Char) (later : Double := pool.clock) :
    Except Rejection (List Leaf) × Pool :=
  let r := pool.request .leaves quoted later
  ((accepted r.1).map fun reply => reply.leafList quoted, r.2)

/-- Has a pattern accepted and then its leaves given. -/
def answer (pool : Pool) (quoted : List Char) : Except Rejection (List Leaf) × Pool :=
  match pool.parse quoted with
  | (.error rejection, pool) => (.error rejection, pool)
  | (.ok _, pool) => pool.leaves quoted

def outcome (pool : Pool) (body : List Char) : Except OutcomeError Outcome × Pool :=
  let quoted := quoteBody body
  let r := pool.answer quoted
  (outcomeOf quoted (r.1.mapError Rejection.refusal), r.2)

/-- The process refused to be killed. -/
inductive CloseError where
  | killFailed
deriving Repr, DecidableEq, Inhabited

/-- Lets go of the current process: waits for its end, and kills it if it lingers. -/
def close (pool : Pool) : Except CloseError Unit × Pool :=
  match pool.current with
  | none => (.ok (), pool)
  | some k =>
    let closed := { pool with current := none }
    match pool.child? k with
    | none => (.ok (), closed)
    | some p =>
      if p.lingers then
        (if p.killFails || p.withstands then .error .killFailed else .ok (),
          closed.modify k Child.kill)
      else
        (.ok (), closed.modify k Child.wait)

def exit (pool : Pool) (k : Nat) (code : Int) : Pool :=
  pool.modify k fun p => { p with exitCode := some code }

/-- The newest process ends by itself. -/
def exitNewest? (pool : Pool) (code : Int) : Option Pool :=
  if pool.children.isEmpty then none else some (pool.exit (pool.children.length - 1) code)

end Pool

end PatternServer.Worker
