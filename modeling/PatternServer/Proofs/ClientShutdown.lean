import PatternServer.Proofs.LatestReport

/-!
# A client that has been shut down

A shutdown leaves a client at rest: without a session, without a timer and with every connection
closed. Reports, timers and sessions from before may still come in, in any order. None of them finds
anything to go on with, so all that can still change are the sessions that come to their end, the
warnings they leave, and connections that a late attempt opens and closes at once.
-/

namespace PatternServer.Engine

set_option autoImplicit false

open PatternServer.Number PatternServer.Vocabulary

/-- What may still come to a client after it has been shut down. -/
def ClientEvent.isLate : ClientEvent → Bool
  | .discover .. => true
  | .timer _ => true
  | .session .. => true
  | .shutdown => true
  | _ => false

namespace Client

@[simp] theorem dropWriter_attempts (c : Client) : c.dropWriter.attempts = c.attempts := by
  unfold dropWriter
  split <;> rfl

@[simp] theorem disconnect_attempts (c : Client) : c.disconnect.attempts = c.attempts := by
  unfold disconnect
  split
  · exact c.dropWriter_attempts
  · exact dropWriter_attempts _

@[simp] theorem cancelTimer_attempts (c : Client) : c.cancelTimer.attempts = c.attempts := by
  unfold cancelTimer
  split <;> rfl

structure AtRest (c : Client) : Prop where
  links : c.LinksSound
  timers : c.TimersSound
  closed : c.closed = true
  session : c.session = none
  timer : c.timer = none

theorem shutdown_of_closed {c : Client} (h : c.closed = true) : c.shutdown = c := if_pos h

theorem shutdown_of_open {c : Client} (h : c.closed = false) :
    ∃ stops,
      c.shutdown = ({ c with
        watching := false, closed := true, watchStops := stops }).cancelTimer.disconnect := by
  rcases c.shutdown_cases with heq | hstops
  · -- A shutdown of an open client closes it, so it does not leave the client as it is.
    have hclosed : c.shutdown.closed = true := by
      simp only [shutdown, h, Bool.false_eq_true, if_false]
      exact closed_of_lore ((disconnect_lore _).trans (cancelTimer_lore _))
    rw [heq, h] at hclosed
    cases hclosed
  · exact hstops

section Shutdown
variable {c : Client}

theorem atRest_shutdown (hlinks : c.LinksSound) (htimers : c.TimersSound)
    (hopen : c.closed = false) : c.shutdown.AtRest := by
  obtain ⟨stops, heq⟩ := shutdown_of_open hopen
  refine ⟨kept_linksSound.step .shutdown hlinks, kept_timersSound.step .shutdown htimers,
    ?_, ?_, ?_⟩
  · rw [heq]
    exact closed_of_lore ((disconnect_lore _).trans (cancelTimer_lore _))
  · rw [heq]
    exact disconnect_session _
  · rw [heq, disconnect_timer]
    exact cancelTimer_timer _

/-- A shutdown asks for no connection, and the vocabulary stays as it is. -/
theorem shutdown_frame (hopen : c.closed = false) :
    c.shutdown.attempts = c.attempts ∧ c.shutdown.registry = c.registry ∧
      c.shutdown.announced = c.announced := by
  obtain ⟨stops, heq⟩ := shutdown_of_open hopen
  have hlore := (disconnect_lore
    ({ c with watching := false, closed := true, watchStops := stops }).cancelTimer).trans
      (cancelTimer_lore _)
  simp only [← heq, lore, Prod.mk.injEq] at hlore
  refine ⟨?_, hlore.2.2.1, hlore.2.2.2⟩
  rw [heq, disconnect_attempts, cancelTimer_attempts]

end Shutdown

/-- All that can still change in a client at rest. -/
def Lingers (c c' : Client) : Prop :=
  ∃ sessions added warnings, (∀ n ∈ added, 0 < n.closes) ∧
    c' = { c with sessions, connections := c.connections ++ added, warnings }

theorem Lingers.refl (c : Client) : c.Lingers c :=
  ⟨c.sessions, [], c.warnings, by simp, by simp⟩

theorem Lingers.trans {c c' c'' : Client} (h : c.Lingers c') (h' : c'.Lingers c'') :
    c.Lingers c'' := by
  obtain ⟨_, added, _, hadded, rfl⟩ := h
  obtain ⟨sessions, added', warnings, hadded', rfl⟩ := h'
  refine ⟨sessions, added ++ added', warnings, ?_, ?_⟩
  · intro n hn
    rcases List.mem_append.mp hn with hn | hn
    · exact hadded n hn
    · exact hadded' n hn
  · simp only [List.append_assoc]

namespace AtRest

variable {c : Client}

theorem fireTimer (h : c.AtRest) (k : Nat) : c.fireTimer k = c := by
  unfold Client.fireTimer
  split
  · rfl
  · rename_i t ht
    split
    · rename_i hpending
      have hk := (h.timers k).mpr ⟨t, ht, hpending⟩
      rw [h.timer] at hk
      cases hk
    · rfl

theorem sessionEvent (h : c.AtRest) (hear : Listener) (k : Nat) (e : SessionEvent) :
    c.Lingers (c.sessionEvent hear k e) := by
  have hk : c.session ≠ some k := by simp [h.session]
  rcases (sessionStep_sessionEvent hear c k e).of_left h.links hk with
    heq | ⟨added, warnings, hadded, heq⟩ <;> rw [heq]
  · exact .refl c
  · exact ⟨_, added, warnings, hadded, rfl⟩

theorem step_lingers (h : c.AtRest) {e : ClientEvent} (he : e.isLate) : c.Lingers (c.step e) := by
  cases e with
  | discover now d liveness =>
    have heq : c.discover now d liveness = c := if_pos h.closed
    rw [Client.step, heq]
    exact .refl c
  | timer k =>
    rw [Client.step, h.fireTimer]
    exact .refl c
  | session hear k e => exact h.sessionEvent hear k e
  | shutdown =>
    rw [Client.step, shutdown_of_closed h.closed]
    exact .refl c
  | _ => cases he

theorem step (h : c.AtRest) {e : ClientEvent} (he : e.isLate) : (c.step e).AtRest := by
  have hlinks := kept_linksSound.step e h.links
  have htimers := kept_timersSound.step e h.timers
  obtain ⟨sessions, added, warnings, _, heq⟩ := h.step_lingers he
  rw [heq] at hlinks htimers ⊢
  exact ⟨hlinks, htimers, h.closed, h.session, h.timer⟩

theorem run (h : c.AtRest) {events : List ClientEvent} (hlate : ∀ e ∈ events, e.isLate) :
    (c.run events).AtRest ∧ c.Lingers (c.run events) := by
  induction events generalizing c with
  | nil => exact ⟨h, .refl c⟩
  | cons e events ih =>
    have he := hlate e List.mem_cons_self
    obtain ⟨hrest, hlingers⟩ := ih (h.step he) fun e' he' => hlate e' (List.mem_cons_of_mem e he')
    exact ⟨hrest, (h.step_lingers he).trans hlingers⟩

theorem connection_closed (h : c.AtRest) {n : Connection} (hn : n ∈ c.connections) :
    0 < n.closes := by
  obtain ⟨w, hw⟩ := List.mem_iff_getElem?.mp hn
  refine (h.links.closed w n hw).mpr ?_
  simp [h.links.writer_none_of_session h.session]

theorem timer_over (h : c.AtRest) {t : Timer} (ht : t ∈ c.timers) : t.status ≠ .pending := by
  obtain ⟨k, hk⟩ := List.mem_iff_getElem?.mp ht
  intro hpending
  have htimer := (h.timers k).mpr ⟨t, hk, hpending⟩
  rw [h.timer] at htimer
  cases htimer

end AtRest

/-- Whatever a client was doing when it is shut down, it is disconnected from then on: whatever of
reports, timers, sessions and shutdowns still comes in, there is nothing to write to, no engine and
no timer that could fire, no connection is asked for, the vocabulary stays as it was, every
connection that any session was given is closed, and another shutdown changes nothing. -/
theorem run_shutdown_final (settings : ClientSettings) (registry : Registry) (nesting : Nat)
    (before later : List ClientEvent) :
    let c := (ofRegistry settings registry nesting).run before
    let after := c.shutdown.run later
    c.closed = false → (∀ e ∈ later, e.isLate) →
      after.state = .disconnected ∧ after.writer = none ∧ after.descriptor = none ∧
      after.timer = none ∧ (∀ t ∈ after.timers, t.status ≠ .pending) ∧
      after.attempts = c.attempts ∧
      after.registry = c.registry ∧ after.announced = c.announced ∧
      (∀ n ∈ after.connections, 0 < n.closes) ∧
      after.shutdown = after := by
  intro c after hopen hlate
  have hlinks : c.LinksSound :=
    kept_linksSound.run (linksSound_ofRegistry settings registry nesting) before
  have htimers : c.TimersSound :=
    kept_timersSound.run (timersSound_ofRegistry settings registry nesting) before
  obtain ⟨hattempts, hregistry, hannounced⟩ := shutdown_frame hopen
  obtain ⟨hrest, sessions, added, warnings, _, heq⟩ :=
    (atRest_shutdown hlinks htimers hopen).run hlate
  refine ⟨hrest.links.state.mpr hrest.session, hrest.links.writer_none_of_session hrest.session,
    hrest.links.descriptor.mpr hrest.session, hrest.timer, fun t ht => hrest.timer_over ht,
    ?_, ?_, ?_, fun n hn => hrest.connection_closed hn, shutdown_of_closed hrest.closed⟩
  · exact (congrArg attempts heq).trans hattempts
  · exact (congrArg Client.registry heq).trans hregistry
  · exact (congrArg announced heq).trans hannounced

/-- One session reads and a second engine is waited for when the client is shut down. The engine
then still sends a message, the timer fires, and both engines are reported again. -/
theorem run_shutdown_final_midway :
    let quiet : Listener := fun _ => none
    let c := (ofRegistry default default).run
      [.connect ⟨4000, 1⟩, .session quiet 0 .begun, .session quiet 0 (.openingEnded .opened),
        .discover .zero (some ⟨4001, 2⟩) .running]
    let later : List ClientEvent :=
      [.session quiet 0 (.received ("\x7b\"type\":\"banks\",\"banks\":[\"x\"]\x7d\n".toList.flatMap
        String.utf8EncodeChar)), .timer 0, .discover .zero (some ⟨4000, 1⟩) .running, .shutdown,
        .discover .zero (some ⟨4001, 2⟩) .running]
    c.state = .connected ∧ c.timer = some 0 ∧ c.closed = false ∧
      (c.shutdown.run later).state = .disconnected ∧ (c.shutdown.run later).timer = none ∧
      (c.shutdown.run later).attempts = [("", 4000)] ∧
      ∀ n ∈ (c.shutdown.run later).connections, 0 < n.closes := by
  intro quiet c later
  have hopen : c.closed = false := by decide
  have hlate : ∀ e ∈ later, e.isLate := by simp [later, ClientEvent.isLate]
  obtain ⟨hstate, _, _, htimer, _, hattempts, _, _, hconnections, _⟩ :=
    run_shutdown_final default default _ _ later hopen hlate
  refine ⟨by decide, by decide, hopen, hstate, htimer, hattempts.trans ?_, hconnections⟩
  decide

end Client

end PatternServer.Engine
