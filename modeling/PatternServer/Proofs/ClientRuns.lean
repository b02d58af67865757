import PatternServer.Engine.Client

/-!
# Runs of the engine client

What happens to a client, in any order: its operations are called, its timers fire and its sessions
go on. A run is a list of such events. What an event can do is said once: `SessionStep` lists what
can come of something that happens to a session, and a property is `Preserved` if no part of any
event destroys it, so that it holds after every run. It is `Kept` if it is, besides, about nothing
but timers, sessions and connections. The timers are followed here: a timer that has neither fired
nor been given up is the one that the client waits for.

Sessions and connections are followed in a module of their own.
-/

namespace PatternServer.Engine

set_option autoImplicit false

open PatternServer.Number PatternServer.Text PatternServer.Vocabulary

/-- Something that happens to a client. An event of a session comes with whoever listens to the
client at that moment. -/
inductive ClientEvent where
  | start (d : Option Descriptor) (liveness : Liveness)
  | discover (now : Double) (d : Option Descriptor) (liveness : Liveness)
  | schedule (now : Double) (d : Descriptor)
  | connect (d : Descriptor)
  | disconnect
  | shutdown
  | timer (k : Nat)
  | session (hear : Listener) (k : Nat) (e : SessionEvent)

namespace Client

def step (c : Client) : ClientEvent → Client
  | .start d liveness => c.start d liveness
  | .discover now d liveness => c.discover now d liveness
  | .schedule now d => c.scheduleReconnect now d
  | .connect d => c.connect d
  | .disconnect => c.disconnect
  | .shutdown => c.shutdown
  | .timer k => c.fireTimer k
  | .session hear k e => c.sessionEvent hear k e

def run (c : Client) (events : List ClientEvent) : Client :=
  events.foldl step c

/-- What stands in a list after one item has been changed. -/
theorem getElem?_modify_cases {α : Type} {l : List α} {f : α → α} {k j : Nat} {a : α}
    (h : (l.modify k f)[j]? = some a) :
    (j = k ∧ ∃ b, l[k]? = some b ∧ a = f b) ∨ (j ≠ k ∧ l[j]? = some a) := by
  by_cases hkj : k = j
  · subst hkj
    rw [List.getElem?_modify_eq] at h
    obtain ⟨b, hb, hab⟩ := Option.map_eq_some_iff.mp h
    exact Or.inl ⟨rfl, b, hb, hab.symm⟩
  · rw [List.getElem?_modify_ne _ _ hkj] at h
    exact Or.inr ⟨Ne.symm hkj, h⟩

/-- What stands in a list after an item has been added at its end. -/
theorem getElem?_snoc_cases {α : Type} {l : List α} {j : Nat} {a b : α}
    (h : (l ++ [b])[j]? = some a) : l[j]? = some a ∨ (j = l.length ∧ a = b) := by
  rw [List.getElem?_append] at h
  split at h
  · exact Or.inl h
  · obtain ⟨hlt, hab⟩ := List.getElem?_eq_some_iff.mp h
    simp only [List.length_singleton] at hlt
    simp only [List.getElem_singleton] at hab
    exact Or.inr ⟨by omega, hab.symm⟩

/-! What is left alone. -/

/-- What a client knows of its timers. -/
def timing (c : Client) : Option Nat × List Timer := (c.timer, c.timers)

/-- What a client knows of its sessions and connections. -/
def links (c : Client) :
    ConnectionState × Option Descriptor × Option Nat × Option Nat × List Session ×
      List Connection :=
  (c.state, c.descriptor, c.session, c.writer, c.sessions, c.connections)

/-- Whether a client has been shut down, what it knows of the vocabulary and what it has told of
it. -/
def lore (c : Client) : Bool × ClientSettings × Registry × List Registry :=
  (c.closed, c.settings, c.registry, c.announced)

@[simp] theorem dropWriter_timing (c : Client) : c.dropWriter.timing = c.timing := by
  unfold dropWriter
  split <;> rfl

@[simp] theorem forget_timing (c : Client) : c.forget.timing = c.timing := c.dropWriter_timing

@[simp] theorem disconnect_timing (c : Client) : c.disconnect.timing = c.timing := by
  unfold disconnect
  split
  · exact c.forget_timing
  · exact forget_timing _

@[simp] theorem cancelTimer_links (c : Client) : c.cancelTimer.links = c.links := by
  unfold cancelTimer
  split <;> rfl

@[simp] theorem scheduleReconnect_links (c : Client) (now : Double) (d : Descriptor) :
    (c.scheduleReconnect now d).links = c.links := c.cancelTimer_links

@[simp] theorem closeSession_timing (c : Client) (k : Nat) :
    (c.closeSession k).timing = c.timing := by
  unfold closeSession
  split
  · exact c.forget_timing
  · rfl

@[simp] theorem dropWriter_lore (c : Client) : c.dropWriter.lore = c.lore := by
  unfold dropWriter
  split <;> rfl

@[simp] theorem disconnect_lore (c : Client) : c.disconnect.lore = c.lore := by
  unfold disconnect
  split
  · exact c.dropWriter_lore
  · exact dropWriter_lore _

@[simp] theorem cancelTimer_lore (c : Client) : c.cancelTimer.lore = c.lore := by
  unfold cancelTimer
  split <;> rfl

@[simp] theorem connect_lore (c : Client) (d : Descriptor) : (c.connect d).lore = c.lore :=
  (disconnect_lore _).trans c.cancelTimer_lore

@[simp] theorem closeSession_lore (c : Client) (k : Nat) : (c.closeSession k).lore = c.lore := by
  unfold closeSession
  split
  · exact c.dropWriter_lore
  · rfl

@[simp] theorem opened_lore (c : Client) (k : Nat) (o : Opening) :
    (c.opened k o).lore = c.lore := by
  simp only [opened]
  split
  · split
    · exact closeSession_lore _ k
    · exact closeSession_lore _ k
    · rfl
  · rfl

/-- A shutdown does nothing, or stops the watch and then ends timer and session. -/
theorem shutdown_cases (c : Client) :
    c.shutdown = c ∨ ∃ stops, c.shutdown =
      ({ c with
        watching := false
        closed := true
        watchStops := stops }).cancelTimer.disconnect := by
  unfold shutdown
  split
  · exact Or.inl rfl
  · right
    cases hw : c.watching with
    | true => exact ⟨c.watchStops + 1, rfl⟩
    | false => exact ⟨c.watchStops, by simp [hw]⟩

/-- Received text changes the registry, what has been told of it, and the buffer. -/
theorem handleLine_frame (hear : Listener) (c : Client) (line : List Char) :
    ∃ registry announced, (c.handleLine hear line).1 = { c with registry, announced } := by
  unfold handleLine
  split
  · exact ⟨c.registry, c.announced, rfl⟩
  · exact ⟨c.registry, c.announced, rfl⟩
  · unfold accept
    split
    · exact ⟨_, _, rfl⟩
    · exact ⟨_, c.announced, rfl⟩

theorem handlePieces_frame (hear : Listener) (c : Client) (pieces : List (List Char)) :
    ∃ registry announced buffer,
      (c.handlePieces hear pieces).1 = { c with registry, announced, buffer } := by
  fun_induction handlePieces hear c pieces with
  | case1 c => exact ⟨c.registry, c.announced, [], rfl⟩
  | case2 c last => exact ⟨c.registry, c.announced, last, rfl⟩
  | case3 c line rest _ c' hline ih =>
    obtain ⟨registry, announced, hc'⟩ := handleLine_frame hear c line
    rw [hline] at hc'
    change c' = _ at hc'
    subst hc'
    exact ih
  | case4 c line rest _ c' e hline =>
    obtain ⟨registry, announced, hc'⟩ := handleLine_frame hear c line
    rw [hline] at hc'
    change c' = _ at hc'
    subst hc'
    exact ⟨registry, announced, _, rfl⟩

theorem feedBytes_frame (hear : Listener) (c : Client) (bytes : List UInt8) :
    ∃ registry announced buffer decoder,
      (c.feedBytes hear bytes).1 = { c with registry, announced, buffer, decoder } := by
  obtain ⟨registry, announced, buffer, h⟩ := handlePieces_frame hear
    { c with decoder := (Utf8.decodePiece c.decoder bytes).2 }
    (splitOn '\n' (c.buffer ++ (Utf8.decodePiece c.decoder bytes).1))
  exact ⟨registry, announced, buffer, _, h⟩

/-! What happens to a session. -/

/-- What a client can become when something happens to its `k`-th session. -/
inductive SessionStep (hear : Listener) (c : Client) (k : Nat) : Client → Prop
  | ignored : SessionStep hear c k c
  | closed (warnings : List String) :
      SessionStep hear c k (({ c with warnings } : Client).closeSession k)
  | ended {s : Session} (hs : c.sessions[k]? = some s) (hphase : ∀ w, s.phase ≠ .reading w) :
      SessionStep hear c k (c.finish k)
  | begun {s : Session} (hs : c.sessions[k]? = some s) (hphase : s.phase = .created)
      (hcancelled : s.cancelled = false) (attempts : List (String × Int)) :
      SessionStep hear c k (({ c with attempts } : Client).setPhase k .opening)
  | opened {s : Session} (hs : c.sessions[k]? = some s) (hphase : s.phase = .opening)
      (o : Opening) : SessionStep hear c k (c.opened k o)
  | received {s : Session} {w : Nat} (hs : c.sessions[k]? = some s) (hphase : s.phase = .reading w)
      (hcancelled : s.cancelled = false) (bytes : List UInt8) :
      SessionStep hear c k (c.received hear k bytes)

theorem sessionStep_openingEnded (hear : Listener) {c : Client} {k : Nat} {s : Session}
    (hs : c.sessions[k]? = some s) (hphase : s.phase = .opening) (d : Descriptor) (o : Opening) :
    SessionStep hear c k (c.openingEnded k d o) := by
  unfold openingEnded
  split
  · exact .closed _
  · exact .ended hs (by simp [hphase])
  · exact .opened hs hphase _

theorem sessionStep_react (hear : Listener) {c : Client} {k : Nat} {s : Session}
    (hs : c.sessions[k]? = some s) (e : SessionEvent) :
    SessionStep hear c k (c.react hear k s e) := by
  unfold react
  split <;> rename_i hphase
  · split
    · exact .ended hs (by simp [hphase])
    · rename_i hcancelled
      exact .begun hs hphase (Bool.eq_false_iff.mpr hcancelled) _
  · exact .ended hs (by simp [hphase])
  · exact sessionStep_openingEnded hear hs hphase _ _
  · exact .ended hs (by simp [hphase])
  · split
    · exact .closed c.warnings
    · rename_i hcancelled
      exact .received hs hphase (Bool.eq_false_iff.mpr hcancelled) _
  · exact .closed c.warnings
  · split
    · exact .closed c.warnings
    · exact .closed _
  · exact .closed c.warnings
  · exact .ignored

theorem sessionStep_sessionEvent (hear : Listener) (c : Client) (k : Nat) (e : SessionEvent) :
    SessionStep hear c k (c.sessionEvent hear k e) := by
  unfold sessionEvent
  split
  · exact .ignored
  · rename_i s hs
    exact sessionStep_react hear hs e

/-- A session that reads goes on if what it has received can be handled to its end, and ends
otherwise. -/
theorem received_eq (hear : Listener) (c : Client) (k : Nat) (bytes : List UInt8) :
    ((c.feedBytes hear bytes).2 = none ∧ c.received hear k bytes = (c.feedBytes hear bytes).1) ∨
      ((c.feedBytes hear bytes).2 ≠ none ∧ ∃ warnings, c.received hear k bytes =
        ({ (c.feedBytes hear bytes).1 with warnings } : Client).closeSession k) := by
  unfold received
  split <;> rename_i hc <;> rw [hc]
  · exact Or.inl ⟨rfl, rfl⟩
  · exact Or.inr ⟨Option.some_ne_none _, _, rfl⟩
  · exact Or.inr ⟨Option.some_ne_none _, _, rfl⟩

/-- Reading itself touches neither timers nor sessions nor connections. -/
theorem received_cases (hear : Listener) (c : Client) (k : Nat) (bytes : List UInt8) :
    ∃ c' : Client, c'.timing = c.timing ∧ c'.links = c.links ∧
      (c.received hear k bytes = c' ∨ c.received hear k bytes = c'.closeSession k) := by
  obtain ⟨registry, announced, buffer, decoder, hfeed⟩ := feedBytes_frame hear c bytes
  rcases c.received_eq hear k bytes with ⟨_, heq⟩ | ⟨_, warnings, heq⟩ <;> rw [hfeed] at heq
  · refine ⟨_, ?_, ?_, Or.inl heq⟩ <;> rfl
  · refine ⟨_, ?_, ?_, Or.inr heq⟩ <;> rfl

theorem opened_timing (c : Client) (k : Nat) (o : Opening) : (c.opened k o).timing = c.timing := by
  simp only [opened]
  split
  · split
    · exact closeSession_timing _ k
    · exact closeSession_timing _ k
    · rfl
  · rfl

theorem SessionStep.timing {hear : Listener} {c c' : Client} {k : Nat}
    (h : SessionStep hear c k c') : c'.timing = c.timing := by
  cases h with
  | ignored => rfl
  | closed warnings => exact closeSession_timing _ k
  | ended => rfl
  | begun => rfl
  | opened _ _ o => exact c.opened_timing k o
  | received _ _ _ bytes =>
    obtain ⟨c', htiming, _, heq | heq⟩ := received_cases hear c k bytes
    · rw [heq, htiming]
    · rw [heq, closeSession_timing, htiming]

/-! What no event destroys. -/

/-- A property of clients that no operation destroys, nor a timer that fires. -/
structure OperationsKeep (P : Client → Prop) : Prop where
  watched : ∀ c watching closed watchInterval watchStops, P c →
    P { c with watching, closed, watchInterval, watchStops }
  cancelTimer : ∀ c, P c → P c.cancelTimer
  fired : ∀ c k t, c.timers[k]? = some t → t.status = .pending → P c →
    P { c.setTimerStatus k .fired with timer := none }
  scheduled : ∀ c now d, P c → P (c.scheduleReconnect now d)
  disconnect : ∀ c, P c → P c.disconnect
  connect : ∀ c d, P c → P (c.connect d)

namespace OperationsKeep

variable {P : Client → Prop}

theorem fireTimer (hP : OperationsKeep P) {c : Client} (k : Nat) (h : P c) :
    P (c.fireTimer k) := by
  unfold Client.fireTimer
  split
  · exact h
  · rename_i t ht
    split
    · rename_i hpending
      have hfired := hP.fired c k t ht hpending h
      simp only
      split
      · exact hfired
      · exact hP.connect _ _ hfired
    · exact h

theorem step (hP : OperationsKeep P) {c : Client} {e : ClientEvent}
    (he : ∀ hear k e', e ≠ .session hear k e') (h : P c) : P (c.step e) := by
  cases e with
  | start d liveness =>
    simp only [Client.step, start]
    split
    · exact hP.watched _ _ _ _ _ (hP.connect c _ h)
    · exact h
    · exact hP.watched _ _ _ _ _ h
  | discover now d liveness =>
    simp only [Client.step, discover]
    split
    · exact h
    · split
      · split
        · exact h
        · exact hP.scheduled c now _ h
      · exact h
      · exact hP.disconnect _ (hP.cancelTimer c h)
  | schedule now d => exact hP.scheduled c now d h
  | connect d => exact hP.connect c d h
  | disconnect => exact hP.disconnect c h
  | shutdown =>
    rcases c.shutdown_cases with heq | ⟨stops, heq⟩ <;> rw [Client.step, heq]
    · exact h
    · refine hP.disconnect _ (hP.cancelTimer _ ?_)
      exact hP.watched c _ _ _ _ h
  | timer k => exact hP.fireTimer k h
  | session hear k e => exact absurd rfl (he hear k e)

end OperationsKeep

/-- A property of clients that no event destroys. -/
structure Preserved (P : Client → Prop) : Prop extends OperationsKeep P where
  session : ∀ {hear c k c'}, SessionStep hear c k c' → P c → P c'

namespace Preserved

variable {P : Client → Prop}

theorem step (hP : Preserved P) {c : Client} (e : ClientEvent) (h : P c) : P (c.step e) := by
  cases e with
  | session hear k e => exact hP.session (sessionStep_sessionEvent hear c k e) h
  | _ => exact hP.toOperationsKeep.step (by simp) h

theorem run (hP : Preserved P) {c : Client} (h : P c) (events : List ClientEvent) :
    P (c.run events) := by
  induction events generalizing c with
  | nil => exact h
  | cons e events ih => exact ih (hP.step e h)

end Preserved

@[simp] theorem dropWriter_nesting (c : Client) : c.dropWriter.nesting = c.nesting := by
  unfold dropWriter
  split <;> rfl

@[simp] theorem disconnect_nesting (c : Client) : c.disconnect.nesting = c.nesting := by
  unfold disconnect
  split
  · exact c.dropWriter_nesting
  · exact dropWriter_nesting _

@[simp] theorem cancelTimer_nesting (c : Client) : c.cancelTimer.nesting = c.nesting := by
  unfold cancelTimer
  split <;> rfl

@[simp] theorem closeSession_nesting (c : Client) (k : Nat) :
    (c.closeSession k).nesting = c.nesting := by
  unfold closeSession
  split
  · exact c.dropWriter_nesting
  · rfl

theorem SessionStep.nesting {hear : Listener} {c c' : Client} {k : Nat}
    (h : SessionStep hear c k c') : c'.nesting = c.nesting := by
  cases h with
  | closed warnings => exact closeSession_nesting _ k
  | opened _ _ o =>
    simp only [Client.opened]
    split
    · split
      · exact closeSession_nesting _ k
      · exact closeSession_nesting _ k
      · rfl
    · rfl
  | received _ _ _ bytes =>
    obtain ⟨registry, announced, buffer, decoder, hfeed⟩ := feedBytes_frame hear c bytes
    rcases c.received_eq hear k bytes with ⟨_, heq⟩ | ⟨_, warnings, heq⟩ <;> rw [heq, hfeed]
    exact closeSession_nesting _ k
  | _ => rfl

/-- How deep values may be is settled for good. -/
theorem preserved_nesting (n : Nat) : Preserved fun c => c.nesting = n where
  watched := fun _ _ _ _ _ h => h
  cancelTimer := fun c h => c.cancelTimer_nesting.trans h
  fired := fun _ _ _ _ _ h => h
  scheduled := fun c _ _ h => c.cancelTimer_nesting.trans h
  disconnect := fun c h => c.disconnect_nesting.trans h
  connect := fun c _ h => (disconnect_nesting _).trans (c.cancelTimer_nesting.trans h)
  session := fun hstep h => hstep.nesting.trans h

/-- A property of clients that no part of any event destroys. -/
structure Kept (P : Client → Prop) : Prop where
  /-- The property is about timers, sessions and connections only. -/
  quiet : ∀ {c c' : Client}, P c → c'.timing = c.timing → c'.links = c.links → P c'
  cancelTimer : ∀ c, P c → P c.cancelTimer
  fired : ∀ c k t, c.timers[k]? = some t → t.status = .pending → P c →
    P { c.setTimerStatus k .fired with timer := none }
  scheduled : ∀ c now d, P c → P (c.scheduleReconnect now d)
  disconnect : ∀ c, P c → P c.disconnect
  connect : ∀ c d, P c → P (c.connect d)
  session : ∀ {hear c k c'}, SessionStep hear c k c' → P c → P c'

namespace Kept

variable {P : Client → Prop}

theorem preserved (hP : Kept P) : Preserved P where
  watched := fun _ _ _ _ _ h => hP.quiet h rfl rfl
  cancelTimer := hP.cancelTimer
  fired := hP.fired
  scheduled := hP.scheduled
  disconnect := hP.disconnect
  connect := hP.connect
  session := hP.session

theorem step (hP : Kept P) {c : Client} (e : ClientEvent) (h : P c) : P (c.step e) :=
  hP.preserved.step e h

theorem run (hP : Kept P) {c : Client} (h : P c) (events : List ClientEvent) :
    P (c.run events) :=
  hP.preserved.run h events

end Kept

/-! Timers. -/

/-- The client waits for exactly the timers that have neither fired nor been given up. -/
def TimersSound (c : Client) : Prop :=
  ∀ k, c.timer = some k ↔ ∃ t, c.timers[k]? = some t ∧ t.status = .pending

theorem TimersSound.of_timing {c c' : Client} (h : c.TimersSound) (heq : c'.timing = c.timing) :
    c'.TimersSound := by
  obtain ⟨htimer, htimers⟩ := Prod.mk.inj heq
  unfold TimersSound
  rw [htimer, htimers]
  exact h

/-- The timer that was waited for is pending no longer, and no other one was. -/
theorem TimersSound.retire {c : Client} (h : c.TimersSound) {k : Nat} (hk : c.timer = some k)
    (status : TimerStatus) (hstatus : status ≠ .pending) :
    ({ c.setTimerStatus k status with timer := none }).TimersSound := by
  intro j
  simp only [setTimerStatus, reduceCtorEq, false_iff, not_exists, not_and]
  intro t ht hpending
  rcases getElem?_modify_cases ht with ⟨_, u, _, rfl⟩ | ⟨hjk, ht⟩
  · exact hstatus hpending
  · have hj := (h j).mpr ⟨t, ht, hpending⟩
    rw [hk] at hj
    exact hjk (Option.some.inj hj).symm

theorem TimersSound.cancelTimer {c : Client} (h : c.TimersSound) : c.cancelTimer.TimersSound := by
  unfold Client.cancelTimer
  split
  · exact h
  · rename_i k hk
    exact h.retire hk .cancelled (by decide)

@[simp] theorem cancelTimer_timer (c : Client) : c.cancelTimer.timer = none := by
  unfold cancelTimer
  split
  · assumption
  · rfl

theorem TimersSound.scheduleReconnect {c : Client} (h : c.TimersSound) (now : Double)
    (d : Descriptor) : (c.scheduleReconnect now d).TimersSound := by
  intro k
  constructor
  · rintro ⟨⟩
    exact ⟨_, List.getElem?_concat_length, rfl⟩
  · rintro ⟨t, ht, hpending⟩
    rcases getElem?_snoc_cases ht with ht | ⟨rfl, _⟩
    · have hold := (h.cancelTimer k).mpr ⟨t, ht, hpending⟩
      rw [cancelTimer_timer] at hold
      cases hold
    · rfl

theorem TimersSound.connect {c : Client} (h : c.TimersSound) (d : Descriptor) :
    (c.connect d).TimersSound :=
  h.cancelTimer.of_timing (disconnect_timing _)

theorem kept_timersSound : Kept TimersSound where
  quiet := fun h htiming _ => h.of_timing htiming
  cancelTimer := fun _ h => h.cancelTimer
  fired := fun _ k t ht hpending h => h.retire ((h k).mpr ⟨t, ht, hpending⟩) .fired (by decide)
  scheduled := fun _ now d h => h.scheduleReconnect now d
  disconnect := fun c h => h.of_timing c.disconnect_timing
  connect := fun _ d h => h.connect d
  session := fun hstep h => h.of_timing hstep.timing

theorem timersSound_ofRegistry (settings : ClientSettings) (registry : Registry) (nesting : Nat) :
    (ofRegistry settings registry nesting).TimersSound := by
  simp [TimersSound, ofRegistry]

theorem length_timers_of_timing {c c' : Client} (h : c'.timing = c.timing) :
    c'.timers.length = c.timers.length :=
  congrArg (fun t => t.2.length) h

@[simp] theorem length_timers_cancelTimer (c : Client) :
    c.cancelTimer.timers.length = c.timers.length := by
  unfold cancelTimer
  split
  · rfl
  · exact List.length_modify _ _ _

/-- Timers are never lost from sight. -/
theorem kept_timers (n : Nat) : Kept fun c => n ≤ c.timers.length where
  quiet := by
    intro c c' h htiming _
    rwa [length_timers_of_timing htiming]
  cancelTimer := by
    intro c h
    rwa [length_timers_cancelTimer]
  fired := by
    intro c k _ _ _ h
    simpa [setTimerStatus] using h
  scheduled := by
    intro c now d h
    simp only [scheduleReconnect, List.length_append, length_timers_cancelTimer]
    omega
  disconnect := by
    intro c h
    rwa [length_timers_of_timing c.disconnect_timing]
  connect := by
    intro c d h
    change n ≤ c.cancelTimer.disconnect.timers.length
    rwa [length_timers_of_timing (disconnect_timing _), length_timers_cancelTimer]
  session := by
    intro hear c k c' hstep h
    rwa [length_timers_of_timing hstep.timing]

end Client

end PatternServer.Engine
