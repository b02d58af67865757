import PatternServer.Proofs.WorkerRuns

/-!
# When processes are started

A pool remembers three things that keep it from starting a process: that a start failed, the process
that still runs, and how long it has to wait after it gave one up. They are matched here with what
has happened: with the calls that failed to start a process, and with those that gave one up and the
time at which they did. The clock must not go back for that.
-/

namespace PatternServer.Worker

set_option autoImplicit false

open PatternServer.Number

namespace Pool

/-- The clock never goes back along a run. -/
def ClockAscends (s : Pool) : List PoolEvent → Prop
  | [] => True
  | e :: events => s.clock.le (s.step e).clock = true ∧ (s.step e).ClockAscends events

/-- When the wait is over that begins with a call that gives up a process. -/
def waitEnd (s : Pool) (c : Call) : Double :=
  (s.call c).2.clock.add s.launch.restartDelay

/-- Along a run, the system failed to start a process. -/
def HasFailed (pool : Pool) (events : List PoolEvent) : Prop :=
  ∃ s c, pool.Makes events s c ∧ s.FailsToStart c ∧ s.nextFault? = none

/-- Along a run, a call gave up a process, and the wait that began then is not over at a time. -/
def MustWait (pool : Pool) (events : List PoolEvent) (now : Double) : Prop :=
  ∃ s c, pool.Makes events s c ∧ s.Discards c ∧ now.lt (s.waitEnd c) = true

instance decidableClockAscends : (s : Pool) → (events : List PoolEvent) →
    Decidable (s.ClockAscends events)
  | _, [] => inferInstanceAs (Decidable True)
  | s, e :: events =>
    have := decidableClockAscends (s.step e) events
    inferInstanceAs (Decidable (_ ∧ _))

instance decidableStarts (s : Pool) (c : Call) : Decidable (s.Starts c) :=
  inferInstanceAs (Decidable (_ = _))

instance decidableFailsToStart (s : Pool) (c : Call) : Decidable (s.FailsToStart c) :=
  inferInstanceAs (Decidable (_ ∧ _))

theorem ClockAscends.of_append {s : Pool} {before rest : List PoolEvent}
    (h : s.ClockAscends (before ++ rest)) : (s.run before).ClockAscends rest := by
  induction before generalizing s with
  | nil => exact h
  | cons e before ih => exact ih h.2

/-! Waiting. -/

/-- While there is something to wait for, there is no process. -/
def Resting (s : Pool) : Prop :=
  s.retryAt ≠ none → s.current = none

/-- A wait that ends at a time is the one that the pool has to keep, or is over. -/
def Heeds (s : Pool) (x : Double) : Prop :=
  s.retryAt = some x ∨ s.clock.lt x = false

theorem isRestarting_eq_true_iff {s : Pool} :
    s.isRestarting = true ↔ ∃ x, s.retryAt = some x ∧ s.clock.lt x = true := by
  unfold isRestarting
  cases s.retryAt <;> simp

theorem Heeds.over {s : Pool} {x : Double} (h : s.Heeds x) (hrested : s.isRestarting = false) :
    s.clock.lt x = false := by
  rcases h with hretry | hover
  · simpa [isRestarting, hretry] using hrested
  · exact hover

/-- What a call does about waiting: it gives up a process, changes nothing at all, or leaves nothing
to wait for. It does the first and the last only if there was no need to wait. -/
inductive Waited (s : Pool) : Except Unavailable Reply → Pool → Prop where
  | discarded {e : Unavailable} {s' : Pool} (he : e.isDiscard = true)
      (hrested : s.isRestarting = false) (hcurrent : s'.current = none)
      (hretry : s'.retryAt = some (s'.clock.add s.launch.restartDelay)) :
      Waited s (.error e) s'
  | kept {e : Unavailable} (he : e.isDiscard = false) : Waited s (.error e) s
  | cleared {result : Except Unavailable Reply} {s' : Pool}
      (hresult : ∀ e, result = .error e → e.isDiscard = false)
      (hrested : s.isRestarting = false) (hretry : s'.retryAt = none)
      (hclock : s'.clock = s.clock) : Waited s result s'

theorem Ready.rested {s t : Pool} {k : Nat} {p : Child} (h : Ready s k p t) (hresting : s.Resting) :
    s.isRestarting = false ∧ t.retryAt = none ∧ t.clock = s.clock ∧ t.launch = s.launch := by
  cases h with
  | running _ hcurrent =>
    have hretry : s.retryAt = none := by
      by_contra hsome
      cases hcurrent.symm.trans (hresting hsome)
    exact ⟨by simp [isRestarting, hretry], hretry, rfl, rfl⟩
  | started hmay => exact ⟨hmay.rested, rfl, rfl, rfl⟩

theorem Asked.waited {s s' : Pool} {c : Call} {result : Except Unavailable Reply}
    (h : Asked s c result s') (hresting : s.Resting) (hstart : s.RemembersStart) :
    Waited s result s' := by
  cases h with
  | unready h =>
    cases h with
    | remembered he =>
      obtain ⟨command, reason, rfl⟩ := hstart _ he
      exact .kept rfl
    | restarting => exact .kept rfl
    | faulted hfail | unnamed hfail | failed hfail =>
      exact .cleared (fun e he => by cases he; rfl) hfail.rested rfl rfl
  | @used k p t _ _ hready hused =>
    obtain ⟨hrested, hretry, hclock, hlaunch⟩ := hready.rested hresting
    cases hused with
    | noPipes => exact .discarded rfl hrested rfl (by simp [givenUp, leaving, hlaunch])
    | unheard _ _ _ he =>
      refine .discarded ?_ hrested rfl (by simp [givenUp, leaving, hlaunch])
      rcases he with rfl | ⟨reason, rfl⟩ <;> rfl
    | gone | blocked | ended =>
      exact .cleared (fun e he => by cases he; rfl) hrested hretry hclock
    | @surprised e _ _ he =>
      refine .cleared (fun e' he' => ?_) hrested hretry hclock
      cases he'
      exact p.output.isDiscard_surprise he
    | answered => exact .cleared (fun e he => by cases he) hrested hretry hclock

/-- What holds of a pool after any events. -/
structure Regular (s : Pool) : Prop where
  remembers : s.RemembersStart
  resting : s.Resting

namespace Regular

variable {s : Pool}

theorem exists_waited (h : s.Regular) (c : Call) :
    ∃ result, (s.call c).1 = c.outcome result ∧ Waited s result (s.call c).2 := by
  obtain ⟨result, hresult, hasked⟩ := s.exists_asked c
  exact ⟨result, hresult, hasked.waited h.resting h.remembers⟩

theorem retryAt_of_discards (h : s.Regular) {c : Call} (hdiscards : s.Discards c) :
    (s.call c).2.retryAt = some (s.waitEnd c) := by
  obtain ⟨e, he, hdiscard⟩ := hdiscards
  obtain ⟨result, hresult, hwaited⟩ := h.exists_waited c
  rw [hresult, outcome_eq_unavailable_iff] at he
  subst he
  unfold waitEnd
  generalize (s.call c).2 = s' at hwaited
  cases hwaited with
  | discarded _ _ _ hretry => exact hretry
  | kept hkept => cases hkept.symm.trans hdiscard
  | cleared hkept => cases (hkept e rfl).symm.trans hdiscard

/-- A pool comes to wait only because a process is given up. -/
theorem discards_of_retryAt (h : s.Regular) {c : Call} {x : Double} (hbefore : s.retryAt ≠ some x)
    (hafter : (s.call c).2.retryAt = some x) : s.Discards c ∧ s.waitEnd c = x := by
  obtain ⟨result, hresult, hwaited⟩ := h.exists_waited c
  unfold Discards waitEnd
  rw [hresult]
  generalize (s.call c).2 = s' at hwaited hafter
  cases hwaited with
  | @discarded e _ he _ _ hretry =>
    exact ⟨⟨e, rfl, he⟩, Option.some.inj (hretry.symm.trans hafter)⟩
  | kept => exact absurd hafter hbefore
  | cleared _ _ hretry => cases hretry.symm.trans hafter

end Regular

theorem Regular.step {s : Pool} (h : s.Regular) (e : PoolEvent) : (s.step e).Regular := by
  refine ⟨h.remembers.step e, ?_⟩
  rcases e.eq_call_or_ne with ⟨c, rfl⟩ | he
  · obtain ⟨result, _, hwaited⟩ := h.exists_waited c
    change (s.call c).2.Resting
    generalize (s.call c).2 = s' at hwaited
    cases hwaited with
    | discarded _ _ hcurrent => exact fun _ => hcurrent
    | kept => exact h.resting
    | cleared _ _ hretry => exact fun hne => absurd hretry hne
  · obtain ⟨_, current, _, heq, hcurrent, _⟩ := s.step_of_ne_call he
    rw [heq]
    intro hne
    rcases hcurrent with rfl | rfl
    · exact h.resting hne
    · rfl

theorem regular_run (launch : Launch) (clock : Double) (supply : List Supply)
    (events : List PoolEvent) : ((ofSupply launch clock supply).run events).Regular :=
  run_preserves (fun _ e h => h.step e)
    ⟨remembersStart_run launch clock supply [], fun _ => rfl⟩ events

/-! From one event to the next. -/

/-- A wait that is over stays over while the clock goes on. -/
theorem over_of_le {now next x : Double} (hle : now.le next = true) (hover : now.lt x = false) :
    next.lt x = false := by
  rw [Bool.eq_false_iff] at hover ⊢
  exact fun hlt => hover (Double.lt_of_le_of_lt hle hlt)

theorem Heeds.step {s : Pool} {x : Double} (h : s.Heeds x) (hs : s.Regular) {e : PoolEvent}
    (hclock : s.clock.le (s.step e).clock = true) : (s.step e).Heeds x := by
  rcases e.eq_call_or_ne with ⟨c, rfl⟩ | he
  · obtain ⟨result, _, hwaited⟩ := hs.exists_waited c
    change s.clock.le (s.call c).2.clock = true at hclock
    change (s.call c).2.Heeds x
    generalize (s.call c).2 = s' at hwaited hclock
    -- What the pool waits for is replaced or dropped only when that wait is over.
    cases hwaited with
    | discarded _ hrested => exact Or.inr (over_of_le hclock (h.over hrested))
    | kept => exact h
    | cleared _ hrested => exact Or.inr (over_of_le hclock (h.over hrested))
  · obtain ⟨_, _, _, heq, _⟩ := s.step_of_ne_call he
    rcases h with hsome | hover
    · exact Or.inl (by rw [heq]; exact hsome)
    · exact Or.inr (over_of_le hclock hover)

theorem Heeds.run {s : Pool} {x : Double} (h : s.Heeds x) (hs : s.Regular)
    {events : List PoolEvent} (hclock : s.ClockAscends events) : (s.run events).Heeds x := by
  induction events generalizing s with
  | nil => exact h
  | cons e events ih => exact ih (h.step hs hclock.1) (hs.step e) hclock.2

theorem call_spawnError_of_failsToStart {s : Pool} {c : Call} (hfails : s.FailsToStart c)
    (hfault : s.nextFault? = none) (hcommand : s.launch.command ≠ []) :
    (s.call c).2.spawnError ≠ none := by
  obtain ⟨result, _, hasked⟩ := s.exists_asked c
  rcases hasked.spawnError with ⟨_, hnone⟩ | ⟨⟨command, reason, heq⟩, _⟩
  · exact absurd (hnone (failsToStart_iff.mp hfails) hfault) hcommand
  · simp [heq]

theorem failsToStart_of_spawnError {s : Pool} {e : PoolEvent} (hbefore : s.spawnError = none)
    (hafter : (s.step e).spawnError ≠ none) :
    ∃ c, e = .call c ∧ s.FailsToStart c ∧ s.nextFault? = none ∧ s.launch.command ≠ [] := by
  rcases e.eq_call_or_ne with ⟨c, rfl⟩ | he
  · obtain ⟨result, _, hasked⟩ := s.exists_asked c
    rcases hasked.spawnError with ⟨heq, _⟩ | ⟨_, hfail, hfault, hcommand⟩
    · exact absurd (heq.trans hbefore) hafter
    · exact ⟨c, rfl, failsToStart_iff.mpr hfail, hfault, hcommand⟩
  · obtain ⟨_, _, _, heq, _⟩ := s.step_of_ne_call he
    rw [heq] at hafter
    exact absurd hbefore hafter

theorem spawnError_step_ne_none {s : Pool} (h : s.spawnError ≠ none) (e : PoolEvent) :
    (s.step e).spawnError ≠ none := by
  rcases e.eq_call_or_ne with ⟨c, rfl⟩ | he
  · obtain ⟨result, _, hasked⟩ := s.exists_asked c
    rcases hasked.spawnError with ⟨heq, _⟩ | ⟨_, hfail, _⟩
    · exact fun hnone => h (heq.symm.trans hnone)
    · exact absurd hfail.untroubled h
  · obtain ⟨_, _, _, heq, _⟩ := s.step_of_ne_call he
    rw [heq]
    exact h

/-! What a pool remembers is what has happened. -/

section

variable (launch : Launch) (clock : Double) (supply : List Supply) (events : List PoolEvent)

theorem spawnError_run_ne_none_iff :
    ((ofSupply launch clock supply).run events).spawnError ≠ none ↔
      (ofSupply launch clock supply).HasFailed events ∧ launch.command ≠ [] := by
  constructor
  · intro hafter
    obtain ⟨before, e, rest, rfl, hbefore, hstep⟩ :=
      exists_step_of_run (P := fun s => s.spawnError ≠ none) (fun h => h rfl) hafter
    obtain ⟨c, rfl, hfails, hfault, hcommand⟩ :=
      failsToStart_of_spawnError (Classical.not_not.mp hbefore) hstep
    rw [run_launch] at hcommand
    exact ⟨⟨_, c, ⟨before, rest, rfl, rfl⟩, hfails, hfault⟩, hcommand⟩
  · rintro ⟨⟨s, c, hmakes, hfails, hfault⟩, hcommand⟩
    have hlaunch : s.launch = launch :=
      hmakes.preserves (P := fun s => s.launch = launch)
        (fun s e h => (s.step_launch e).trans h) rfl
    obtain ⟨rest, heq⟩ := hmakes.exists_run
    rw [heq]
    exact run_preserves (P := fun s => s.spawnError ≠ none)
      (fun _ e h => spawnError_step_ne_none h e)
      (call_spawnError_of_failsToStart hfails hfault (hlaunch ▸ hcommand)) rest

variable {launch clock supply events}

theorem isRestarting_run_iff (hclock : (ofSupply launch clock supply).ClockAscends events) :
    let s := (ofSupply launch clock supply).run events
    s.isRestarting = true ↔ (ofSupply launch clock supply).MustWait events s.clock := by
  intro s
  have hregular := regular_run launch clock supply
  constructor
  · intro hrestarting
    obtain ⟨x, hretry, hlt⟩ := isRestarting_eq_true_iff.mp hrestarting
    obtain ⟨before, e, rest, rfl, hbefore, hstep⟩ :=
      exists_step_of_run (P := fun s => s.retryAt = some x) (fun h => by cases h) hretry
    rcases e.eq_call_or_ne with ⟨c, rfl⟩ | he
    · obtain ⟨hdiscards, rfl⟩ := (hregular before).discards_of_retryAt hbefore hstep
      exact ⟨_, c, ⟨before, rest, rfl, rfl⟩, hdiscards, hlt⟩
    · obtain ⟨_, _, _, heq, _⟩ := step_of_ne_call _ he
      rw [heq] at hstep
      exact absurd hstep hbefore
  · rintro ⟨_, c, ⟨before, rest, rfl, rfl⟩, hdiscards, hlt⟩
    have hheeds : (((ofSupply launch clock supply).run before).step (.call c)).Heeds
        (((ofSupply launch clock supply).run before).waitEnd c) :=
      Or.inl ((hregular before).retryAt_of_discards hdiscards)
    have hrun : s = (((ofSupply launch clock supply).run before).step (.call c)).run rest :=
      run_append _ before (.call c :: rest)
    have hend := hheeds.run ((hregular before).step _) hclock.of_append.2
    rw [← hrun] at hend
    by_contra hrested
    cases hlt.symm.trans (hend.over (Bool.eq_false_iff.mpr hrested))

end

/-- A pool that remembers a failed start or has to wait is left as it is. -/
theorem call_of_waiting {s : Pool} (h : s.Regular)
    (hwaiting : s.spawnError ≠ none ∨ s.isRestarting = true) (c : Call) :
    (s.call c).2 = s ∧ ∃ e, e.isReported = true ∧ (s.call c).1 = .error (.unavailable e) := by
  obtain ⟨result, hresult, hasked⟩ := s.exists_asked c
  have hnot : ¬ s.MayStart := by
    intro hmay
    rcases hwaiting with htroubled | hrestarting
    · exact htroubled hmay.untroubled
    · cases hmay.rested.symm.trans hrestarting
  rw [hresult]
  generalize (s.call c).2 = s' at hasked
  cases hasked with
  | unready hunready =>
    cases hunready with
    | remembered he =>
      obtain ⟨command, reason, rfl⟩ := h.remembers _ he
      exact ⟨rfl, _, rfl, rfl⟩
    | restarting => exact ⟨rfl, _, rfl, rfl⟩
    | faulted hfail | unnamed hfail | failed hfail => exact absurd hfail.toMayStart hnot
  | used hready hused =>
    cases hready with
    | running huntroubled hcurrent =>
      rcases hwaiting with htroubled | hrestarting
      · exact absurd huntroubled htroubled
      · obtain ⟨x, hretry, _⟩ := isRestarting_eq_true_iff.mp hrestarting
        have hnone := h.resting (by simp [hretry])
        cases hcurrent.symm.trans hnone
    | started hmay => exact absurd hmay hnot

theorem step_starts (s : Pool) (e : PoolEvent) :
    (s.step e).attempts = s.attempts ∧ (s.step e).children.length = s.children.length ∨
      ∃ c, e = .call c ∧ s.Starts c := by
  rcases e.eq_call_or_ne with ⟨c, rfl⟩ | he
  · obtain ⟨result, _, hasked⟩ := s.exists_asked c
    rcases hasked.attempts with ⟨_, hstarts⟩ | ⟨_, hsame⟩
    · exact Or.inr ⟨c, rfl, hstarts⟩
    · exact Or.inl hsame
  · obtain ⟨_, _, _, heq, _, hchildren⟩ := s.step_of_ne_call he
    rw [heq]
    refine Or.inl ⟨rfl, ?_⟩
    rcases hchildren with rfl | ⟨_, _, _, _, _, rfl⟩
    · rfl
    · exact List.length_set

/-- Processes over the life of a pool whose clock does not go back. A call tries to start one
exactly if the system has never failed to start the command, the current process is missing or has
ended, and no wait after a process was given up is still on; nothing but a call does. As long as the
system has failed to start a command or a wait is on, calls find the parser unavailable and leave
all as it is. A start that fails without a command, or in a way that is no error of the system, is
not remembered. -/
theorem run_starts (launch : Launch) (clock : Double) (supply : List Supply)
    (events : List PoolEvent) (hclock : (ofSupply launch clock supply).ClockAscends events)
    (c : Call) :
    let start := ofSupply launch clock supply
    let s := start.run events
    (s.Starts c ↔
      ¬ (start.HasFailed events ∧ launch.command ≠ []) ∧
      (∀ k p, s.current = some k → s.child? k = some p → p.isRunning = false) ∧
      ¬ start.MustWait events s.clock) ∧
    (start.HasFailed events ∧ launch.command ≠ [] ∨ start.MustWait events s.clock →
      (s.call c).2 = s ∧ ∃ e, e.isReported = true ∧ (s.call c).1 = .error (.unavailable e)) ∧
    ∀ e, (s.step e).attempts = s.attempts ∧ (s.step e).children.length = s.children.length ∨
      ∃ c', e = .call c' ∧ s.Starts c' := by
  intro start s
  have hregular : s.Regular := regular_run launch clock supply events
  have htroubled : s.spawnError ≠ none ↔ start.HasFailed events ∧ launch.command ≠ [] :=
    spawnError_run_ne_none_iff launch clock supply events
  have hwaits : s.isRestarting = true ↔ start.MustWait events s.clock :=
    isRestarting_run_iff hclock
  have hidle : s.running? = none ↔
      ∀ k p, s.current = some k → s.child? k = some p → p.isRunning = false := by
    simp only [Option.eq_none_iff_forall_ne_some, ne_eq, running?_eq_some_iff, not_and,
      not_exists, Bool.not_eq_true]
    exact forall_congr' fun k => forall_comm
  rw [← htroubled, ← hwaits, ← hidle]
  refine ⟨?_, ?_, s.step_starts⟩
  · rw [starts_iff, Classical.not_not, Bool.not_eq_true]
    exact ⟨fun h => ⟨h.untroubled, h.idle, h.rested⟩, fun ⟨h₁, h₂, h₃⟩ => ⟨h₁, h₂, h₃⟩⟩
  · exact fun hwaiting => call_of_waiting hregular hwaiting c

/-- A silent process is given up at 101, so that no other one is started at 105. One is at 106,
though the pool was closed in the meantime. -/
theorem run_starts_after_wait :
    let silent : Child :=
      { lines := [], output := .silent, input := .ready, killFails := false, lingers := false
        exitCode := none, kills := 0, sent := [] }
    let start := ofSupply ⟨["node"], "mini", .ofNat 5, none⟩ (.ofNat 100)
      [.child silent, .child silent]
    let c : Call := ⟨.parse, "\"bd\"".toList, .ofNat 101⟩
    let waiting := [.call c, .clock (.ofNat 105)]
    let rested := [.call c, .close, .clock (.ofNat 106)]
    start.MustWait waiting (.ofNat 105) ∧ ((start.run waiting).call c).2 = start.run waiting ∧
      (start.run rested).Starts c ∧ ¬ start.MustWait rested (.ofNat 106) := by
  intro silent start c waiting rested
  have hwaits : start.MustWait waiting (.ofNat 105) :=
    ⟨start, c, ⟨[], [.clock (.ofNat 105)], rfl, rfl⟩, ⟨.timedOut, rfl, rfl⟩, by decide +kernel⟩
  have hstarts : (start.run rested).Starts c := by decide +kernel
  obtain ⟨_, hunchanged, _⟩ := run_starts ⟨["node"], "mini", .ofNat 5, none⟩ (.ofNat 100)
    [.child silent, .child silent] waiting (by decide +kernel) c
  obtain ⟨hallowed, _⟩ := run_starts ⟨["node"], "mini", .ofNat 5, none⟩ (.ofNat 100)
    [.child silent, .child silent] rested (by decide +kernel) c
  exact ⟨hwaits, (hunchanged (Or.inr hwaits)).1, hstarts, (hallowed.mp hstarts).2.2⟩

/-- A command that cannot be handed to the system is tried again at every call. -/
theorem run_starts_after_fault :
    let start := ofSupply ⟨["no\x00de"], "mini", .ofNat 5, none⟩ (.ofNat 100)
      [.fault "embedded null byte", .fault "embedded null byte"]
    let c : Call := ⟨.parse, "\"bd\"".toList, .ofNat 100⟩
    let next := start.run [.call c]
    start.FailsToStart c ∧ next.FailsToStart c ∧
      (next.call c).1 = .error (.unavailable (.spawnFaulted "embedded null byte")) :=
  ⟨by decide +kernel, by decide +kernel, rfl⟩

end Pool

end PatternServer.Worker
