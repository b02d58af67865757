import PatternServer.Engine.Descriptor
import PatternServer.Number.Double

/-!
# Watching the state file

The file is looked at again and again. Whenever its time of change or its size is another than the
last time, it is read and its content reported; that it has vanished is reported too. The look and
the reading are two separate accesses, between which the file may change.
-/

namespace PatternServer.Engine

set_option autoImplicit false

open PatternServer.Number

/-- What tells two versions of a file apart. -/
structure Signature where
  modified : Int
  size : Nat
deriving Repr, DecidableEq, Inhabited

structure FileVersion where
  content : List UInt8
  modified : Int
deriving Repr, DecidableEq, Inhabited

def FileVersion.signature (v : FileVersion) : Signature :=
  ⟨v.modified, v.content.length⟩

structure Watcher where
  interval : Double
  /-- The signature seen last; none while there was no file. -/
  last : Option Signature
  stopped : Bool
  /-- Whether the next look is planned. -/
  armed : Bool
deriving Repr, DecidableEq, Inhabited

namespace Watcher

/-- What one look at the file brings. -/
inductive Report where
  | unchanged
  | changed (d : Option Descriptor)
  | unreadable
deriving Repr, DecidableEq, Inhabited

def start (interval : Double) (signature : Option Signature) : Watcher :=
  { interval, last := signature, stopped := false, armed := true }

def stop (w : Watcher) : Watcher :=
  { w with stopped := true, armed := false }

/-- One look at the file: the signature it has, and the content it has if it is then read. -/
def poll (w : Watcher) (signature : Option Signature) (content : Option (List UInt8)) :
    Watcher × Report :=
  if w.stopped then ({ w with armed := false }, .unchanged)
  else if signature = w.last then ({ w with armed := true }, .unchanged)
  else
    ({ w with last := signature, armed := true },
      match readState content with
      | .ok d => .changed d
      | .error .notText => .unreadable)

end Watcher

/-- A file that is watched under manual control: time passes only when the watchers are told to
look. -/
structure Lookout where
  file : Option FileVersion
  watchers : List Watcher
  /-- Whether the next report makes its receiver stop the newest watcher. -/
  stopOnChange : Bool
  /-- What has been reported so far. -/
  seen : List (Option Descriptor)
  /-- The delays for which looks have been planned so far. -/
  delays : List Double
deriving Repr, DecidableEq, Inhabited

namespace Lookout

def empty : Lookout := ⟨none, [], false, [], []⟩

def write (l : Lookout) (v : FileVersion) : Lookout := { l with file := some v }

def remove (l : Lookout) : Lookout := { l with file := none }

def watch (l : Lookout) (interval : Double) : Lookout :=
  { l with
    watchers := l.watchers ++ [Watcher.start interval (l.file.map FileVersion.signature)]
    delays := l.delays ++ [interval] }

def stop (l : Lookout) : Lookout :=
  { l with watchers := l.watchers.modify (l.watchers.length - 1) Watcher.stop }

def armedCount (l : Lookout) : Nat := l.watchers.countP (·.armed)

/-- Passes a report on to its receiver. -/
def receive (l : Lookout) (d : Option Descriptor) : Lookout :=
  let l := { l with seen := l.seen ++ [d] }
  if l.stopOnChange then { l.stop with stopOnChange := false } else l

def pollOne (l : Lookout) (k : Nat) : Lookout × Option StateFileError :=
  match l.watchers[k]? with
  | none => (l, none)
  | some w =>
    let r := w.poll (l.file.map FileVersion.signature) (l.file.map (·.content))
    let l := { l with watchers := l.watchers.set k r.1 }
    let result :=
      match r.2 with
      | .unchanged => (l, none)
      | .changed d => (l.receive d, none)
      | .unreadable => (l, some StateFileError.notText)
    if (result.1.watchers[k]?).any (·.armed) then
      ({ result.1 with delays := result.1.delays ++ [w.interval] }, result.2)
    else result

/-- Lets watchers look one after the other, up to one that fails. -/
def pollThese (l : Lookout) : List Nat → Lookout × Option StateFileError
  | [] => (l, none)
  | k :: rest =>
    match l.pollOne k with
    | (l, none) => l.pollThese rest
    | r => r

/-- Lets all watchers look for which a look is planned, and with `force` also those that have been
stopped. -/
def poll (l : Lookout) (force : Bool) : Lookout × Option StateFileError :=
  l.pollThese <| (List.range l.watchers.length).filter fun k =>
    (l.watchers[k]?).any fun w => force || w.armed

end Lookout

end PatternServer.Engine
