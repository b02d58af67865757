import Mathlib.Data.List.Basic
import PatternServer.Worker.Pool

/-!
# Runs of the parser worker

What happens to a pool, in any order: patterns are handed in, the pool is closed, the clock goes on
and processes end by themselves. A run is a list of such events. What a call can come to is said
once and in two parts: the pool is `Ready` with a process to write to or `Unready` for some reason,
and a process that is written to is `Used` in one of seven ways. A call that does not come back has
this for its result. Nothing follows it in the life of a pool, but it does no harm to let a run go
on.

What is read from the processes, when they are started and how they end is followed in modules of
their own.
-/

namespace PatternServer.Worker

set_option autoImplicit false

open PatternServer.Notation PatternServer.Number

/-- A pattern that is handed in. -/
structure Call where
  kind : RequestKind
  quoted : List Char
  /-- What the clock shows if a process is given up during the call. -/
  later : Double
deriving Repr, DecidableEq, Inhabited

/-- Something that happens to a pool. -/
inductive PoolEvent where
  | call (c : Call)
  | close
  | clock (now : Double)
  | exit (k : Nat) (code : Int)
deriving Repr, DecidableEq, Inhabited

theorem PoolEvent.eq_call_or_ne (e : PoolEvent) : (∃ c, e = .call c) ∨ ∀ c, e ≠ .call c := by
  cases e <;> simp

/-- Whether a process has been given up when there is no reply for this reason. -/
def Unavailable.isDiscard : Unavailable → Bool
  | .noPipes | .timedOut | .unwaitable _ => true
  | _ => false

/-- What becomes of a call, once the lines that come in time have been read, if it is nothing that
the parser is prepared for. -/
def OutputPipe.surprise? : OutputPipe → Option Unavailable
  | .failing reason => some (.readFaulted reason)
  | .endless => some .stalled
  | _ => none

theorem OutputPipe.isDiscard_surprise (o : OutputPipe) {e : Unavailable}
    (he : o.surprise? = some e) : e.isDiscard = false := by
  cases o <;> cases he <;> rfl

/-- Whether a request can be written to a process. -/
def Child.isWritable (p : Child) : Bool :=
  p.hasPipes && !p.isBroken && !p.isFull

/-- What a call gives if it is decided by a reply. -/
def Reply.given (r : Reply) (c : Call) : Except Rejection (List Leaf) :=
  if r.ok then
    match c.kind with
    | .parse => .ok []
    | .leaves => .ok (r.leafList c.quoted)
  else .error (.syntaxError r.report)

/-- What a call gives if reading a reply comes to a result. -/
def Call.outcome (c : Call) : Except Unavailable Reply → Except Rejection (List Leaf)
  | .error e => .error (.unavailable e)
  | .ok r => r.given c

namespace Pool

/-- What a call gives, a pattern that is only to be accepted having no leaves, and the pool after
it. -/
def call (pool : Pool) (c : Call) : Except Rejection (List Leaf) × Pool :=
  match c.kind with
  | .parse =>
    let r := pool.parse c.quoted c.later
    (r.1.map fun _ => [], r.2)
  | .leaves => pool.leaves c.quoted c.later

def step (pool : Pool) : PoolEvent → Pool
  | .call c => (pool.call c).2
  | .close => pool.close.2
  | .clock now => { pool with clock := now }
  | .exit k code => pool.exit k code

def run (pool : Pool) (events : List PoolEvent) : Pool :=
  events.foldl step pool

/-- Along a run from a pool, a call is made at a pool `s`. -/
def Makes (pool : Pool) (events : List PoolEvent) (s : Pool) (c : Call) : Prop :=
  ∃ before rest, events = before ++ .call c :: rest ∧ s = pool.run before

theorem run_append (s : Pool) (before rest : List PoolEvent) :
    s.run (before ++ rest) = (s.run before).run rest := List.foldl_append

theorem run_preserves {P : Pool → Prop} (hstep : ∀ s e, P s → P (s.step e)) {s : Pool} (h : P s)
    (events : List PoolEvent) : P (s.run events) := by
  induction events generalizing s with
  | nil => exact h
  | cons e events ih => exact ih (hstep s e h)

/-- What holds after a run and not before it comes about at one of the events. -/
theorem exists_step_of_run {P : Pool → Prop} {s : Pool} {events : List PoolEvent} (hbefore : ¬ P s)
    (hafter : P (s.run events)) :
    ∃ before e rest, events = before ++ e :: rest ∧ ¬ P (s.run before) ∧
      P ((s.run before).step e) := by
  induction events generalizing s with
  | nil => exact absurd hafter hbefore
  | cons e events ih =>
    by_cases hstep : P (s.step e)
    · exact ⟨[], e, events, rfl, hbefore, hstep⟩
    · obtain ⟨before, e', rest, rfl, hnot, hholds⟩ := ih hstep hafter
      exact ⟨e :: before, e', rest, rfl, hnot, hholds⟩

/-- The pool at which a call is made satisfies what every event preserves. -/
theorem Makes.preserves {P : Pool → Prop} (hstep : ∀ s e, P s → P (s.step e)) {pool s : Pool}
    {c : Call} {events : List PoolEvent} (h : Makes pool events s c) (hpool : P pool) : P s := by
  obtain ⟨before, _, _, rfl⟩ := h
  exact run_preserves hstep hpool before

/-- A run goes on from the calls that are made along it. -/
theorem Makes.exists_run {pool s : Pool} {c : Call} {events : List PoolEvent}
    (h : Makes pool events s c) : ∃ rest, pool.run events = (s.call c).2.run rest := by
  obtain ⟨before, rest, rfl, rfl⟩ := h
  exact ⟨rest, pool.run_append before (.call c :: rest)⟩

theorem call_snd (s : Pool) (c : Call) :
    (s.call c).2 = (s.request c.kind c.quoted c.later).2 := by
  obtain ⟨kind, quoted, later⟩ := c
  cases kind <;> rfl

theorem call_fst (s : Pool) (c : Call) :
    (s.call c).1 = c.outcome (s.request c.kind c.quoted c.later).1 := by
  obtain ⟨kind, quoted, later⟩ := c
  cases kind <;> simp only [call, parse, leaves] <;>
    rcases (request s _ quoted later).1 with e | r <;> try rfl
  all_goals cases hok : r.ok <;> simp [accepted, Call.outcome, Reply.given, hok, Except.map]

/-! A process to write to. -/

/-- The pool after a process has been started. -/
def started (s : Pool) (p : Child) (rest : List Supply) : Pool :=
  { s with
    attempts := s.attempts + 1, retryAt := none, supply := rest, children := s.children ++ [p],
    current := some s.children.length }

/-- The pool after a process could not be started. -/
def notStarted (s : Pool) (error : Option Unavailable) : Pool :=
  { s with
    attempts := s.attempts + 1, retryAt := none, supply := s.supply.drop 1, spawnError := error }

/-- A new process may be started: starting never failed as far as the pool remembers, no process
runs, and none was given up too short a time ago. -/
structure MayStart (s : Pool) : Prop where
  untroubled : s.spawnError = none
  idle : s.running? = none
  rested : s.isRestarting = false

/-- A new process may be started, but there is none to be had. -/
structure MustFail (s : Pool) : Prop extends MayStart s where
  missing : ∀ p rest, s.supply ≠ .child p :: rest

/-- How the next start fails, if it does so in a way that is no error of the system. -/
def nextFault? (s : Pool) : Option String :=
  match s.supply with
  | .fault reason :: _ => some reason
  | _ => none

/-- The pool has a process to write to. -/
inductive Ready (s : Pool) : Nat → Child → Pool → Prop where
  | running {k : Nat} {p : Child} (huntroubled : s.spawnError = none)
      (hcurrent : s.current = some k) (hp : s.child? k = some p) (hrunning : p.isRunning = true) :
      Ready s k p s
  | started {p : Child} {rest : List Supply} (hmay : s.MayStart)
      (hsupply : s.supply = .child p :: rest) :
      Ready s s.children.length p (s.started p rest)

/-- The pool has no process to write to. -/
inductive Unready (s : Pool) : Unavailable → Pool → Prop where
  | remembered {e : Unavailable} (he : s.spawnError = some e) : Unready s e s
  | restarting (huntroubled : s.spawnError = none) (hidle : s.running? = none)
      (hwaits : s.isRestarting = true) : Unready s .restarting s
  | faulted {reason : String} (hfail : s.MustFail) (hfault : s.nextFault? = some reason) :
      Unready s (.spawnFaulted reason) (s.notStarted s.spawnError)
  | unnamed (hfail : s.MustFail) (hfault : s.nextFault? = none) (hcommand : s.launch.command = []) :
      Unready s .noCommand (s.notStarted s.spawnError)
  | failed {command reason : String} {arguments : List String} (hfail : s.MustFail)
      (hfault : s.nextFault? = none) (hcommand : s.launch.command = command :: arguments) :
      Unready s (.spawnFailed command reason)
        (s.notStarted (some (.spawnFailed command reason)))

theorem running?_eq_some_iff {s : Pool} {k : Nat} :
    s.running? = some k ↔
      s.current = some k ∧ ∃ p, s.child? k = some p ∧ p.isRunning = true := by
  simp only [running?, Option.filter_eq_some_iff, Option.any_eq_true]

theorem Ready.child? {s t : Pool} {k : Nat} {p : Child} (h : Ready s k p t) :
    t.child? k = some p := by
  cases h with
  | running _ _ hp => exact hp
  | started => exact List.getElem?_concat_length

theorem Ready.current {s t : Pool} {k : Nat} {p : Child} (h : Ready s k p t) :
    t.current = some k := by
  cases h with
  | running _ hcurrent => exact hcurrent
  | started => rfl

/-- The processes that there are stay as they are when another one is started. -/
theorem Ready.child?_of_ne {s t : Pool} {j k : Nat} {p : Child} (h : Ready s k p t) (hne : k ≠ j) :
    t.child? j = s.child? j := by
  cases h with
  | running => rfl
  | started =>
    simp only [Pool.child?, Pool.started, List.getElem?_append]
    split
    · rfl
    · rw [List.getElem?_eq_none (by simp; omega), List.getElem?_eq_none (by omega)]

/-- A start that the system refuses. -/
theorem spawn_refused {s : Pool} (hmay : s.MayStart)
    (hsupply : s.supply = [] ∨ ∃ reason rest, s.supply = .failure reason :: rest) :
    ∃ e t, s.spawn = (.error e, t) ∧ Unready s e t := by
  rcases hsupply with hsupply | ⟨reason, rest, hsupply⟩
  all_goals
    have hfail : s.MustFail := ⟨hmay, by simp [hsupply]⟩
    have hfault : s.nextFault? = none := by simp [nextFault?, hsupply]
    cases hcommand : s.launch.command with
    | nil =>
      refine ⟨_, _, ?_, .unnamed hfail hfault hcommand⟩
      simp only [spawn, hcommand, hsupply, notStarted]
    | cons command arguments =>
      simp only [spawn, hcommand, hsupply]
      refine ⟨_, _, rfl, ?_⟩
      have hdrop : s.supply.drop 1 = List.drop 1 _ := congrArg (List.drop 1) hsupply
      exact hdrop ▸ .failed hfail hfault hcommand

theorem spawn_cases {s : Pool} (hmay : s.MayStart) :
    (∃ k p t, s.spawn = (.ok k, t) ∧ Ready s k p t) ∨
      ∃ e t, s.spawn = (.error e, t) ∧ Unready s e t := by
  rcases hsupply : s.supply with _ | ⟨p | reason | reason, rest⟩
  · exact Or.inr (spawn_refused hmay (Or.inl hsupply))
  · refine Or.inl ⟨_, p, s.started p rest, ?_, .started hmay hsupply⟩
    simp only [spawn, hsupply]
    rfl
  · exact Or.inr (spawn_refused hmay (Or.inr ⟨reason, rest, hsupply⟩))
  · have hfault : s.nextFault? = some reason := by simp [nextFault?, hsupply]
    refine Or.inr ⟨_, _, ?_, .faulted ⟨hmay, by simp [hsupply]⟩ hfault⟩
    simp [spawn, hsupply, notStarted]

theorem ensure_cases (s : Pool) :
    (∃ k p t, s.ensure = (.ok k, t) ∧ Ready s k p t) ∨
      ∃ e t, s.ensure = (.error e, t) ∧ Unready s e t := by
  unfold ensure
  cases htroubled : s.spawnError with
  | some e => exact Or.inr ⟨e, s, rfl, .remembered htroubled⟩
  | none =>
    cases hrunning : s.running? with
    | some k =>
      obtain ⟨hcurrent, p, hp, hruns⟩ := running?_eq_some_iff.mp hrunning
      exact Or.inl ⟨k, p, s, rfl, .running htroubled hcurrent hp hruns⟩
    | none =>
      cases hwaits : s.isRestarting with
      | true => exact Or.inr ⟨_, s, rfl, .restarting htroubled hrunning hwaits⟩
      | false => exact spawn_cases ⟨htroubled, hrunning, hwaits⟩

/-! What becomes of a process that is used. -/

/-- The next request. -/
def nextRequest (s : Pool) (c : Call) : Request := ⟨s.lastId + 1, c.kind, c.quoted⟩

/-- The pool with a process in another state, and without a current one. -/
def leaving (s : Pool) (k : Nat) (p : Child) : Pool :=
  { s with current := none, children := s.children.set k p }

/-- The pool after a process has been given up. -/
def givenUp (s : Pool) (k : Nat) (p : Child) (now : Double) : Pool :=
  { s.leaving k p with clock := now, retryAt := some (now.add s.launch.restartDelay) }

/-- What becomes of the process `k` of a pool, its current one, if it is used for a call. -/
inductive Used (s : Pool) (c : Call) (k : Nat) (p : Child) :
    Except Unavailable Reply → Pool → Prop where
  | noPipes (hpipes : p.hasPipes = false) :
      Used s c k p (.error .noPipes) (s.givenUp k p.kill c.later)
  | gone (hpipes : p.hasPipes = true) (hbroken : p.isBroken = true) :
      Used s c k p (.error .gone) ({ s with lastId := s.lastId + 1 }.leaving k p.part)
  | blocked (hpipes : p.hasPipes = true) (hfull : p.isFull = true) :
      Used s c k p (.error .stalled) { s with lastId := s.lastId + 1 }
  | answered {i : Nat} {r : Reply} (hwritable : p.isWritable = true)
      (hfound : Child.findReply? (s.lastId + 1) p.timely = some (i, r)) :
      Used s c k p (.ok r)
        { s with
          lastId := s.lastId + 1
          children := s.children.set k ((p.write (s.nextRequest c)).skip (i + 1)) }
  | unheard {e : Unavailable} (hwritable : p.isWritable = true)
      (hnone : Child.findReply? (s.lastId + 1) p.timely = none)
      (hcalm : p.output.surprise? = none) (he : e = .timedOut ∨ ∃ reason, e = .unwaitable reason) :
      Used s c k p (.error e)
        ({ s with lastId := s.lastId + 1 }.givenUp k
          ((p.write (s.nextRequest c)).skip p.timely.length).kill c.later)
  | ended (hwritable : p.isWritable = true)
      (hnone : Child.findReply? (s.lastId + 1) p.timely = none)
      (hcalm : p.output.surprise? = none) :
      Used s c k p (.error (.exited p.part.exitCode))
        ({ s with lastId := s.lastId + 1 }.leaving k
          ((p.write (s.nextRequest c)).skip p.timely.length).part)
  | surprised {e : Unavailable} (hwritable : p.isWritable = true)
      (hnone : Child.findReply? (s.lastId + 1) p.timely = none)
      (he : p.output.surprise? = some e) :
      Used s c k p (.error e)
        { s with
          lastId := s.lastId + 1
          children := s.children.set k ((p.write (s.nextRequest c)).skip p.timely.length) }

theorem modify_eq_set {s : Pool} {k : Nat} {p : Child} (hp : s.child? k = some p)
    (f : Child → Child) : s.modify k f = { s with children := s.children.set k (f p) } := by
  have hp' : s.children[k]? = some p := hp
  simp [modify, List.modify_eq_set_getElem?, hp']

theorem child?_set {s : Pool} {k : Nat} {p q : Child} (hp : s.child? k = some p) :
    ({ s with children := s.children.set k q } : Pool).child? k = some q := by
  obtain ⟨hlt, _⟩ := List.getElem?_eq_some_iff.mp hp
  exact List.getElem?_set_self hlt

theorem child?_set_ne {s s' : Pool} {j k : Nat} {p : Child}
    (hset : s'.children = s.children.set k p) (hne : k ≠ j) : s'.child? j = s.child? j := by
  simp [child?, hset, List.getElem?_set_ne hne]

theorem discard_eq {s : Pool} {k : Nat} {p : Child} (hp : s.child? k = some p)
    (hcurrent : s.current = some k) (now : Double) : s.discard k now = s.givenUp k p.kill now := by
  simp [discard, modify_eq_set hp, givenUp, leaving, hcurrent, Option.filter]

theorem release_eq {s : Pool} {k : Nat} {p : Child} (hp : s.child? k = some p) :
    s.release k = s.leaving k p.part := by
  simp [release, modify_eq_set hp, leaving]

/-- A call comes to nothing because there is no process, or uses one. -/
inductive Asked (s : Pool) (c : Call) : Except Unavailable Reply → Pool → Prop where
  | unready {e : Unavailable} {s' : Pool} (h : Unready s e s') : Asked s c (.error e) s'
  | used {k : Nat} {p : Child} {t s' : Pool} {result : Except Unavailable Reply}
      (hready : Ready s k p t) (hused : Used t c k p result s') : Asked s c result s'

/-- A request that has been written is answered, or the process is given up, let go of or kept. -/
theorem awaitReply_cases {s : Pool} {k : Nat} {p : Child} (hp : s.child? k = some p)
    (hcurrent : s.current = some k) (id : Nat) (later : Double) :
    (∃ i r, Child.findReply? id p.timely = some (i, r) ∧
      s.awaitReply k id later =
        (.ok r, { s with children := s.children.set k (p.skip (i + 1)) })) ∨
    Child.findReply? id p.timely = none ∧
      ((∃ e, (e = .timedOut ∨ ∃ reason, e = .unwaitable reason) ∧ p.output.surprise? = none ∧
        s.awaitReply k id later =
          (.error e, s.givenUp k (p.skip p.timely.length).kill later)) ∨
      (p.output.surprise? = none ∧ s.awaitReply k id later =
        (.error (.exited p.part.exitCode), s.leaving k (p.skip p.timely.length).part)) ∨
      ∃ e, p.output.surprise? = some e ∧ s.awaitReply k id later =
        (.error e, { s with children := s.children.set k (p.skip p.timely.length) })) := by
  have hread : ∀ n, ({ s with children := s.children.set k (p.skip n) } : Pool).child? k =
      some (p.skip n) := fun n => child?_set hp
  unfold awaitReply
  simp only [hp]
  cases hfound : Child.findReply? id p.timely with
  | some found =>
    obtain ⟨i, r⟩ := found
    exact Or.inl ⟨i, r, rfl, by simp only [modify_eq_set hp]⟩
  | none =>
    refine Or.inr ⟨rfl, ?_⟩
    simp only [modify_eq_set hp, discard_eq (hread _) hcurrent, release_eq (hread _), givenUp,
      leaving, List.set_set]
    cases houtput : p.output with
    | silent => exact Or.inl ⟨_, Or.inl rfl, rfl, rfl⟩
    | unwaitable reason => exact Or.inl ⟨_, Or.inr ⟨_, rfl⟩, rfl, rfl⟩
    | failing | endless => exact Or.inr (Or.inr ⟨_, rfl, rfl⟩)
    | readable | missing => exact Or.inr (Or.inl ⟨rfl, rfl⟩)

theorem used_awaitReply {s : Pool} {c : Call} {k : Nat} {p : Child} (hp : s.child? k = some p)
    (hcurrent : s.current = some k) (hwritable : p.isWritable = true) :
    let asked : Pool := { s with
      lastId := s.lastId + 1, children := s.children.set k (p.write (s.nextRequest c)) }
    Used s c k p (asked.awaitReply k (s.lastId + 1) c.later).1
      (asked.awaitReply k (s.lastId + 1) c.later).2 := by
  intro asked
  have hwritten : asked.child? k = some (p.write (s.nextRequest c)) :=
    child?_set (s := { s with lastId := s.lastId + 1 }) hp
  have hset : ∀ q, asked.children.set k q = s.children.set k q := fun q => List.set_set ..
  have htimely : (p.write (s.nextRequest c)).timely = p.timely := rfl
  rcases awaitReply_cases hwritten hcurrent (s.lastId + 1) c.later with
    ⟨i, r, hfound, heq⟩ | ⟨hnone, ⟨e, he, hcalm, heq⟩ | ⟨hcalm, heq⟩ | ⟨e, he, heq⟩⟩ <;> rw [heq]
  · simp only [hset]
    exact .answered hwritable hfound
  · simp only [givenUp, leaving, hset, htimely]
    exact .unheard hwritable hnone hcalm he
  · simp only [leaving, hset, htimely]
    exact .ended hwritable hnone hcalm
  · simp only [hset, htimely]
    exact .surprised hwritable hnone he

theorem asked_request (s : Pool) (c : Call) :
    Asked s c (s.request c.kind c.quoted c.later).1 (s.request c.kind c.quoted c.later).2 := by
  unfold request
  rcases s.ensure_cases with ⟨k, p, t, hensure, hready⟩ | ⟨e, t, hensure, hunready⟩ <;>
    rw [hensure]
  · have hp := hready.child?
    simp only [hp]
    cases hpipes : p.hasPipes with
    | false =>
      rw [if_neg (by simp), discard_eq hp hready.current]
      exact .used hready (.noPipes hpipes)
    | true =>
      rw [if_pos rfl]
      cases hbroken : p.isBroken with
      | true =>
        simp only [release_eq (s := { t with lastId := t.lastId + 1 }) hp]
        exact .used hready (.gone hpipes hbroken)
      | false =>
        cases hfull : p.isFull with
        | true => exact .used hready (.blocked hpipes hfull)
        | false =>
          have hwritable : p.isWritable = true := by simp [Child.isWritable, hpipes, hbroken, hfull]
          simp only [modify_eq_set (s := { t with lastId := t.lastId + 1 }) hp]
          exact .used hready (used_awaitReply hp hready.current hwritable)
  · exact .unready hunready

/-- What a call gives and the pool after it. -/
theorem exists_asked (s : Pool) (c : Call) :
    ∃ result, (s.call c).1 = c.outcome result ∧ Asked s c result (s.call c).2 :=
  ⟨_, s.call_fst c, s.call_snd c ▸ s.asked_request c⟩

/-- Closing lets go of the current process, which is killed or has ended then. -/
theorem close_cases (s : Pool) :
    (s.close.2 = { s with current := none } ∧ ∀ k p, s.current = some k → s.child? k ≠ some p) ∨
      ∃ k p p', s.current = some k ∧ s.child? k = some p ∧ s.close.2 = s.leaving k p' ∧
        (p' = p.kill ∨ p' = { p with exitCode := some 0 }) := by
  unfold close
  cases hcurrent : s.current with
  | none =>
    refine Or.inl ⟨?_, fun k p h => by cases h⟩
    cases s
    cases hcurrent
    rfl
  | some k =>
    simp only
    cases hp : s.child? k with
    | none =>
      refine Or.inl ⟨rfl, fun j p hj => ?_⟩
      obtain rfl : k = j := Option.some.inj hj
      simp [hp]
    | some p =>
      right
      have hp' : ({ s with current := none } : Pool).child? k = some p := hp
      simp only
      split
      · refine ⟨k, p, p.kill, rfl, hp, ?_, Or.inl rfl⟩
        rw [modify_eq_set hp']
        rfl
      · rename_i hlingers
        refine ⟨k, p, { p with exitCode := some 0 }, rfl, hp, ?_, Or.inr rfl⟩
        rw [modify_eq_set hp', Child.wait, if_neg hlingers]
        rfl

theorem exit_cases (s : Pool) (k : Nat) (code : Int) :
    (s.exit k code = s ∧ s.child? k = none) ∨
      ∃ p, s.child? k = some p ∧
        s.exit k code =
          { s with children := s.children.set k { p with exitCode := some code } } := by
  cases hp : s.child? k with
  | none =>
    have hle : s.children.length ≤ k := List.getElem?_eq_none_iff.mp hp
    exact Or.inl ⟨by simp [Pool.exit, modify, List.modify_eq_self hle], rfl⟩
  | some p => exact Or.inr ⟨p, rfl, modify_eq_set hp _⟩

/-- What is not a call changes nothing but the clock, which process is the current one, and how one
process has ended. -/
theorem step_of_ne_call (s : Pool) {e : PoolEvent} (he : ∀ c, e ≠ .call c) :
    ∃ clock current children, s.step e = { s with clock, current, children } ∧
      (current = s.current ∨ current = none) ∧
      (children = s.children ∨ ∃ k p exitCode kills, s.child? k = some p ∧
        children = s.children.set k { p with exitCode, kills }) := by
  cases e with
  | call c => exact absurd rfl (he c)
  | close =>
    rcases s.close_cases with ⟨heq, _⟩ | ⟨k, p, p', _, hp, heq, hp'⟩
    · exact ⟨_, _, _, heq, Or.inr rfl, Or.inl rfl⟩
    · refine ⟨_, _, _, heq, Or.inr rfl, Or.inr ⟨k, p, ?_⟩⟩
      rcases hp' with rfl | rfl <;> exact ⟨_, _, hp, rfl⟩
  | clock now => exact ⟨now, _, _, rfl, Or.inl rfl, Or.inl rfl⟩
  | exit k code =>
    rcases s.exit_cases k code with ⟨heq, _⟩ | ⟨p, hp, heq⟩
    · exact ⟨_, _, _, heq, Or.inl rfl, Or.inl rfl⟩
    · exact ⟨_, _, _, heq, Or.inl rfl, Or.inr ⟨k, p, some code, p.kills, hp, rfl⟩⟩

/-! What stays as it is, and what is remembered of a start that fails. -/

theorem step_launch (s : Pool) (e : PoolEvent) : (s.step e).launch = s.launch := by
  rcases e.eq_call_or_ne with ⟨c, rfl⟩ | he
  · have hunready : ∀ {e t}, Unready s e t → t.launch = s.launch := by
      rintro _ _ (_ | _ | _ | _ | _) <;> rfl
    have hready : ∀ {k p t}, Ready s k p t → t.launch = s.launch := by
      rintro _ _ _ (_ | _) <;> rfl
    have hused : ∀ {t k p result t'}, Used t c k p result t' → t'.launch = t.launch := by
      rintro _ _ _ _ _ (_ | _ | _ | _ | _ | _ | _) <;> rfl
    obtain ⟨result, _, hasked⟩ := s.exists_asked c
    cases hasked with
    | unready h => exact hunready h
    | used h h' => exact (hused h').trans (hready h)
  · obtain ⟨_, _, _, heq, _⟩ := s.step_of_ne_call he
    rw [heq]

theorem run_launch (s : Pool) (events : List PoolEvent) : (s.run events).launch = s.launch :=
  run_preserves (P := fun t => t.launch = s.launch) (fun t e h => (t.step_launch e).trans h) rfl
    events

/-- A call tries to start a process. -/
def Starts (s : Pool) (c : Call) : Prop :=
  (s.call c).2.attempts = s.attempts + 1

/-- A call tries to start a process and gets none. -/
def FailsToStart (s : Pool) (c : Call) : Prop :=
  s.Starts c ∧ (s.call c).2.children.length = s.children.length

theorem not_mayStart_of_running {s : Pool} {k : Nat} {p : Child} (hcurrent : s.current = some k)
    (hp : s.child? k = some p) (hrunning : p.isRunning = true) : ¬ s.MayStart := by
  intro hmay
  have hsome := running?_eq_some_iff.mpr ⟨hcurrent, p, hp, hrunning⟩
  cases hmay.idle.symm.trans hsome

theorem Used.frame {s s' : Pool} {c : Call} {k : Nat} {p : Child}
    {result : Except Unavailable Reply} (h : Used s c k p result s') :
    s'.attempts = s.attempts ∧ s'.spawnError = s.spawnError ∧
      s'.children.length = s.children.length := by
  cases h with
  | blocked => exact ⟨rfl, rfl, rfl⟩
  | _ => exact ⟨rfl, rfl, List.length_set⟩

/-- A call tries to start a process exactly if that is allowed, and has no new one otherwise. -/
theorem Asked.attempts {s s' : Pool} {c : Call} {result : Except Unavailable Reply}
    (h : Asked s c result s') :
    s.MayStart ∧ s'.attempts = s.attempts + 1 ∨
      ¬ s.MayStart ∧ s'.attempts = s.attempts ∧ s'.children.length = s.children.length := by
  cases h with
  | unready h =>
    cases h with
    | remembered he =>
      refine Or.inr ⟨fun hmay => ?_, rfl, rfl⟩
      cases hmay.untroubled.symm.trans he
    | restarting _ _ hwaits =>
      refine Or.inr ⟨fun hmay => ?_, rfl, rfl⟩
      cases hmay.rested.symm.trans hwaits
    | faulted hfail | unnamed hfail | failed hfail => exact Or.inl ⟨hfail.toMayStart, rfl⟩
  | used hready hused =>
    obtain ⟨hattempts, _, hlength⟩ := hused.frame
    cases hready with
    | running _ hcurrent hp hrunning =>
      exact Or.inr ⟨not_mayStart_of_running hcurrent hp hrunning, hattempts, hlength⟩
    | started hmay => exact Or.inl ⟨hmay, hattempts⟩

theorem starts_iff {s : Pool} {c : Call} : s.Starts c ↔ s.MayStart := by
  obtain ⟨result, _, hasked⟩ := s.exists_asked c
  rcases hasked.attempts with ⟨hmay, heq⟩ | ⟨hmay, heq, _⟩
  · exact iff_of_true heq hmay
  · refine iff_of_false (fun hstarts => ?_) hmay
    have := hstarts.symm.trans heq
    omega

theorem failsToStart_iff {s : Pool} {c : Call} : s.FailsToStart c ↔ s.MustFail := by
  obtain ⟨result, _, hasked⟩ := s.exists_asked c
  have hlength : s.MayStart → ((s.call c).2.children.length = s.children.length ↔
      ∀ p rest, s.supply ≠ .child p :: rest) := by
    intro hmay
    generalize (s.call c).2 = s' at hasked
    cases hasked with
    | unready h =>
      cases h with
      | remembered he => cases hmay.untroubled.symm.trans he
      | restarting _ _ hwaits => cases hmay.rested.symm.trans hwaits
      | faulted hfail | unnamed hfail | failed hfail => exact iff_of_true rfl hfail.missing
    | used hready hused =>
      rw [hused.frame.2.2]
      cases hready with
      | running _ hcurrent hp hrunning =>
        exact absurd hmay (not_mayStart_of_running hcurrent hp hrunning)
      | started _ hsupply =>
        refine iff_of_false ?_ fun hnone => hnone _ _ hsupply
        simp [Pool.started]
  constructor
  · rintro ⟨hstarts, heq⟩
    have hmay := starts_iff.mp hstarts
    exact ⟨hmay, (hlength hmay).mp heq⟩
  · intro hfail
    exact ⟨starts_iff.mpr hfail.toMayStart, (hlength hfail.toMayStart).mpr hfail.missing⟩

/-- A start that fails is remembered if it is an error of the system and there is a command, and
nothing else is. -/
theorem Asked.spawnError {s s' : Pool} {c : Call} {result : Except Unavailable Reply}
    (h : Asked s c result s') :
    s'.spawnError = s.spawnError ∧
        (s.MustFail → s.nextFault? = none → s.launch.command = []) ∨
      (∃ command reason, s'.spawnError = some (.spawnFailed command reason)) ∧ s.MustFail ∧
        s.nextFault? = none ∧ s.launch.command ≠ [] := by
  cases h with
  | unready h =>
    cases h with
    | remembered he => exact Or.inl ⟨rfl, fun hfail => by cases hfail.untroubled.symm.trans he⟩
    | restarting _ _ hwaits =>
      exact Or.inl ⟨rfl, fun hfail => by cases hfail.rested.symm.trans hwaits⟩
    | faulted _ hfault => exact Or.inl ⟨rfl, fun _ hnone => by cases hfault.symm.trans hnone⟩
    | unnamed _ _ hcommand => exact Or.inl ⟨rfl, fun _ _ => hcommand⟩
    | failed hfail hfault hcommand =>
      exact Or.inr ⟨⟨_, _, rfl⟩, hfail, hfault, by rw [hcommand]; simp⟩
  | used hready hused =>
    rw [hused.frame.2.1]
    cases hready with
    | running _ hcurrent hp hrunning =>
      refine Or.inl ⟨rfl, fun hfail => ?_⟩
      exact absurd hfail.toMayStart (not_mayStart_of_running hcurrent hp hrunning)
    | started _ hsupply => exact Or.inl ⟨rfl, fun hfail => absurd hsupply (hfail.missing _ _)⟩

/-- Nothing is remembered but a start of a command that failed. -/
def RemembersStart (s : Pool) : Prop :=
  ∀ e, s.spawnError = some e → ∃ command reason, e = .spawnFailed command reason

theorem RemembersStart.step {s : Pool} (h : s.RemembersStart) (e : PoolEvent) :
    (s.step e).RemembersStart := by
  rcases e.eq_call_or_ne with ⟨c, rfl⟩ | he
  · intro e he
    obtain ⟨result, _, hasked⟩ := s.exists_asked c
    rcases hasked.spawnError with ⟨heq, _⟩ | ⟨⟨command, reason, heq⟩, _⟩
    · exact h e (heq.symm.trans he)
    · obtain rfl : e = .spawnFailed command reason := Option.some.inj (he.symm.trans heq)
      exact ⟨command, reason, rfl⟩
  · obtain ⟨_, _, _, heq, _⟩ := s.step_of_ne_call he
    rw [heq]
    exact h

theorem remembersStart_run (launch : Launch) (clock : Double) (supply : List Supply)
    (events : List PoolEvent) : ((ofSupply launch clock supply).run events).RemembersStart :=
  run_preserves (fun _ e h => h.step e) (fun _ he => by cases he) events

/-- Why a call neither writes a request nor finds that the parser is unavailable. -/
inductive Hindered (s : Pool) (c : Call) : Unavailable → Prop where
  | unnamed (hfails : s.FailsToStart c) (hfault : s.nextFault? = none)
      (hcommand : s.launch.command = []) : Hindered s c .noCommand
  | faulted {reason : String} (hfails : s.FailsToStart c) (hfault : s.nextFault? = some reason) :
      Hindered s c (.spawnFaulted reason)
  | blocked {k : Nat} {p : Child} {t : Pool} (hready : Ready s k p t) (hpipes : p.hasPipes = true)
      (hfull : p.isFull = true) : Hindered s c .stalled

theorem Unready.isReported_or_hindered {s t : Pool} {e : Unavailable} (h : Unready s e t)
    (hstart : s.RemembersStart) (c : Call) : e.isReported = true ∨ s.Hindered c e := by
  cases h with
  | remembered he =>
    obtain ⟨command, reason, rfl⟩ := hstart _ he
    exact Or.inl rfl
  | restarting => exact Or.inl rfl
  | failed => exact Or.inl rfl
  | faulted hfail hfault => exact Or.inr (.faulted (failsToStart_iff.mpr hfail) hfault)
  | unnamed hfail hfault hcommand =>
    exact Or.inr (.unnamed (failsToStart_iff.mpr hfail) hfault hcommand)

/-- Without a process to be had, a call comes to nothing. -/
theorem Asked.unready_of_mustFail {s s' : Pool} {c : Call} {result : Except Unavailable Reply}
    (h : Asked s c result s') (hfail : s.MustFail) : ∃ e, result = .error e ∧ Unready s e s' := by
  cases h with
  | unready h => exact ⟨_, rfl, h⟩
  | used hready =>
    cases hready with
    | running _ hcurrent hp hrunning =>
      exact absurd hfail.toMayStart (not_mayStart_of_running hcurrent hp hrunning)
    | started _ hsupply => exact absurd hsupply (hfail.missing _ _)

/-- A process to write to is used. -/
theorem Asked.used_of_ready {s s' t : Pool} {c : Call} {k : Nat} {p : Child}
    {result : Except Unavailable Reply} (h : Asked s c result s') (hready : Ready s k p t) :
    Used t c k p result s' := by
  cases hready with
  | running huntroubled hcurrent hp hrunning =>
    have hnot := not_mayStart_of_running hcurrent hp hrunning
    cases h with
    | unready h =>
      cases h with
      | remembered he => cases huntroubled.symm.trans he
      | restarting _ hidle =>
        cases hidle.symm.trans (running?_eq_some_iff.mpr ⟨hcurrent, p, hp, hrunning⟩)
      | faulted hfail | unnamed hfail | failed hfail => exact absurd hfail.toMayStart hnot
    | used hready hused =>
      cases hready with
      | running _ hcurrent' hp' =>
        cases hcurrent.symm.trans hcurrent'
        cases hp.symm.trans hp'
        exact hused
      | started hmay => exact absurd hmay hnot
  | started hmay hsupply =>
    cases h with
    | unready h =>
      cases h with
      | remembered he => cases hmay.untroubled.symm.trans he
      | restarting _ _ hwaits => cases hmay.rested.symm.trans hwaits
      | faulted hfail | unnamed hfail | failed hfail => exact absurd hsupply (hfail.missing _ _)
    | used hready hused =>
      cases hready with
      | running _ hcurrent hp hrunning =>
        exact absurd hmay (not_mayStart_of_running hcurrent hp hrunning)
      | started _ hsupply' =>
        cases hsupply.symm.trans hsupply'
        exact hused

theorem Used.of_full {s s' : Pool} {c : Call} {k : Nat} {p : Child}
    {result : Except Unavailable Reply} (h : Used s c k p result s') (hpipes : p.hasPipes = true)
    (hfull : p.isFull = true) : result = .error .stalled := by
  have hnot : p.isWritable = false := by simp [Child.isWritable, hfull]
  cases h with
  | noPipes hmissing => cases hpipes.symm.trans hmissing
  | gone _ hbroken =>
    simp only [Child.isFull, Child.isBroken, Bool.and_eq_true, beq_iff_eq] at hfull hbroken
    cases hfull.1.symm.trans hbroken.1
  | blocked => rfl
  | answered hwritable | unheard hwritable | ended hwritable | surprised hwritable =>
    cases hnot.symm.trans hwritable

theorem Hindered.result_eq {s s' : Pool} {c : Call} {e : Unavailable}
    {result : Except Unavailable Reply} (h : s.Hindered c e) (hasked : Asked s c result s') :
    result = .error e := by
  cases h with
  | blocked hready hpipes hfull => exact (hasked.used_of_ready hready).of_full hpipes hfull
  | unnamed hfails hfault hcommand =>
    have hfail := failsToStart_iff.mp hfails
    obtain ⟨e, rfl, hunready⟩ := hasked.unready_of_mustFail hfail
    cases hunready with
    | remembered he => cases hfail.untroubled.symm.trans he
    | restarting _ _ hwaits => cases hfail.rested.symm.trans hwaits
    | faulted _ hfault' => cases hfault.symm.trans hfault'
    | unnamed => rfl
    | failed _ _ hcommand' => cases hcommand.symm.trans hcommand'
  | faulted hfails hfault =>
    have hfail := failsToStart_iff.mp hfails
    obtain ⟨e, rfl, hunready⟩ := hasked.unready_of_mustFail hfail
    cases hunready with
    | remembered he => cases hfail.untroubled.symm.trans he
    | restarting _ _ hwaits => cases hfail.rested.symm.trans hwaits
    | faulted _ hfault' => cases hfault.symm.trans hfault'; rfl
    | unnamed _ hnone => cases hfault.symm.trans hnone
    | failed _ hnone => cases hfault.symm.trans hnone

theorem outcome_eq_unavailable_iff {c : Call} {result : Except Unavailable Reply}
    {e : Unavailable} : c.outcome result = .error (.unavailable e) ↔ result = .error e := by
  cases result with
  | error e' => simp [Call.outcome]
  | ok r =>
    refine iff_of_false ?_ (by simp)
    simp only [Call.outcome, Reply.given]
    split
    · split <;> simp
    · simp

/-- A call gives up the process that it uses. -/
def Discards (s : Pool) (c : Call) : Prop :=
  ∃ e, (s.call c).1 = .error (.unavailable e) ∧ e.isDiscard = true

end Pool

end PatternServer.Worker
