import PatternServer.Worker.Reply

/-!
# Worker processes

What the server can see of a worker process and do to it. All that a process will ever do is part of
it: its output, as the lines that have not been read yet, and how long its pipes work.
-/

namespace PatternServer.Worker

set_option autoImplicit false

/-- What waiting for output and reading it do. -/
inductive OutputPipe where
  /-- Output can be read at once. -/
  | readable
  /-- Nothing comes, once the lines that come in time have been read. -/
  | silent
  /-- The pipe cannot be waited on then, for a reason. -/
  | unwaitable (reason : String)
  /-- Waiting or reading fails then in a way that nobody is prepared for. -/
  | failing (reason : String)
  /-- Reading does not come back then: a line is begun and never ended, or there is no end of lines
  that are no replies. -/
  | endless
  | missing
deriving Repr, DecidableEq, Inhabited

/-- What writing to a process does. -/
inductive InputPipe where
  | ready
  /-- Writing fails, once the requests that the process still takes have been written. -/
  | broken
  /-- Writing does not come back then. -/
  | full
  /-- Writing works and closing fails. -/
  | stuck
  | missing
deriving Repr, DecidableEq, Inhabited

structure Child where
  lines : List (List UInt8)
  output : OutputPipe
  input : InputPipe
  /-- Whether killing reports an error, though it works. -/
  killFails : Bool
  /-- Whether the process outlasts any wait. -/
  lingers : Bool
  /-- The exit code once the process is gone. -/
  exitCode : Option Int
  kills : Nat
  sent : List Request
  /-- How many lines come in time, unless the output can be read at once. -/
  ready : Nat := 0
  /-- How many requests the process still takes if its input is broken or full. -/
  takes : Nat := 0
  /-- The exit code that the process has by the time its output ends or its input breaks, if it is
  gone by then. -/
  partingCode : Option Int := none
  /-- Whether killing reports an error and does nothing. -/
  withstands : Bool := false
deriving Repr, DecidableEq, Inhabited

namespace Child

def splitLines : List UInt8 → List (List UInt8)
  | [] => []
  | b :: rest =>
    if b = 10 then [b] :: splitLines rest
    else
      match splitLines rest with
      | [] => [[b]]
      | line :: more => (b :: line) :: more

def killedCode : Int := -9

def isRunning (p : Child) : Bool :=
  p.exitCode.isNone

def hasPipes (p : Child) : Bool :=
  p.input ≠ .missing && p.output ≠ .missing

def kill (p : Child) : Child :=
  { p with
    exitCode := if p.withstands then p.exitCode else some killedCode
    kills := p.kills + 1 }

/-- Waits for the process to end by itself, which leaves code zero. -/
def wait (p : Child) : Child :=
  if p.lingers then p else { p with exitCode := some 0 }

/-- Whether writing fails now. -/
def isBroken (p : Child) : Bool :=
  p.input == .broken && p.takes == 0

/-- Whether writing does not come back now. -/
def isFull (p : Child) : Bool :=
  p.input == .full && p.takes == 0

def write (p : Child) (r : Request) : Child :=
  { p with sent := p.sent ++ [r], takes := p.takes - 1 }

/-- The lines that come in time. -/
def timely (p : Child) : List (List UInt8) :=
  match p.output with
  | .readable => p.lines
  | .missing => p.lines
  | _ => p.lines.take p.ready

def skip (p : Child) (n : Nat) : Child :=
  { p with lines := p.lines.drop n, ready := p.ready - n }

/-- The process is found to have ended its output or to take no more input. -/
def part (p : Child) : Child :=
  { p with exitCode := p.exitCode.or p.partingCode }

/-- The reply that a line is, if it is one with the given number. -/
def replyTo? (id : Nat) (line : List UInt8) : Option Reply :=
  (Reply.ofLine? line).filter fun r => r.id == (id : Int)

/-- The first line that is a reply with the given number: its place and the reply. -/
def findReply? (id : Nat) : List (List UInt8) → Option (Nat × Reply)
  | [] => none
  | line :: rest =>
    match replyTo? id line with
    | some r => some (0, r)
    | none => (findReply? id rest).map fun found => (found.1 + 1, found.2)

end Child

end PatternServer.Worker
