import PatternServer.Proofs.ClientLinks

/-!
# Which report a timer serves

A client that is told of an engine waits for it to settle and then connects to it. Between two
reports only timers fire and sessions go on, and neither makes the client wait for another engine.
So the engine that a firing timer connects to is the one of the latest report that was heeded. A
report of the engine that the client is connected to already is not heeded, nor is one of an engine
of which it cannot be told whether it runs, and the timer of an earlier report then stays: these are
the cases in which the latest report does not win.
-/

namespace PatternServer.Engine

set_option autoImplicit false

open PatternServer.Number PatternServer.Vocabulary

namespace ClientEvent

def isReport : ClientEvent → Bool
  | .discover .. => true
  | _ => false

/-- Something that happens without a call from outside: a timer fires, or a session goes on. -/
def isSpontaneous : ClientEvent → Bool
  | .timer _ => true
  | .session .. => true
  | _ => false

end ClientEvent

namespace Client

/-- The engine that the client waits for. -/
def awaited (c : Client) : Option Descriptor :=
  c.timer.bind fun k => c.timers[k]?.map (·.descriptor)

/-! Only a shutdown closes a client. -/

theorem closed_of_lore {c c' : Client} (h : c'.lore = c.lore) : c'.closed = c.closed :=
  congrArg Prod.fst h

theorem fireTimer_closed (c : Client) (k : Nat) : (c.fireTimer k).closed = c.closed := by
  unfold fireTimer
  split
  · rfl
  · split
    · simp only
      split
      · rfl
      · exact closed_of_lore (connect_lore _ _)
    · rfl

theorem discover_closed (c : Client) (now : Double) (d : Option Descriptor)
    (liveness : Liveness) : (c.discover now d liveness).closed = c.closed := by
  unfold discover
  split
  · rfl
  · split
    · split
      · rfl
      · exact closed_of_lore c.cancelTimer_lore
    · rfl
    · exact closed_of_lore ((disconnect_lore _).trans c.cancelTimer_lore)

theorem received_closed (hear : Listener) (c : Client) (k : Nat) (bytes : List UInt8) :
    (c.received hear k bytes).closed = c.closed := by
  obtain ⟨registry, announced, buffer, decoder, hfeed⟩ := feedBytes_frame hear c bytes
  rcases c.received_eq hear k bytes with ⟨_, heq⟩ | ⟨_, warnings, heq⟩ <;> rw [heq, hfeed]
  exact (closed_of_lore (closeSession_lore _ k)).trans rfl

theorem SessionStep.closed_eq {hear : Listener} {c c' : Client} {k : Nat}
    (h : SessionStep hear c k c') : c'.closed = c.closed := by
  cases h with
  | ignored => rfl
  | closed warnings => exact closed_of_lore (closeSession_lore _ k)
  | ended => rfl
  | begun => rfl
  | opened _ _ o => exact closed_of_lore (c.opened_lore k o)
  | received _ _ _ bytes => exact c.received_closed hear k bytes

theorem step_closed (c : Client) {e : ClientEvent} (he : e.isReport ∨ e.isSpontaneous) :
    (c.step e).closed = c.closed := by
  cases e with
  | discover now d liveness => exact c.discover_closed now d liveness
  | timer k => exact c.fireTimer_closed k
  | session hear k e => exact (sessionStep_sessionEvent hear c k e).closed_eq
  | _ => simp [ClientEvent.isReport, ClientEvent.isSpontaneous] at he

theorem run_closed (c : Client) {events : List ClientEvent}
    (hevents : ∀ e ∈ events, e.isReport ∨ e.isSpontaneous) :
    (c.run events).closed = c.closed := by
  induction events generalizing c with
  | nil => rfl
  | cons e events ih =>
    have he := hevents e List.mem_cons_self
    exact (ih (c.step e) fun e' he' => hevents e' (List.mem_cons_of_mem e he')).trans
      (c.step_closed he)

/-! What a client waits for. -/

theorem awaited_of_timing {c c' : Client} (h : c'.timing = c.timing) : c'.awaited = c.awaited := by
  obtain ⟨htimer, htimers⟩ := Prod.mk.inj h
  rw [awaited, awaited, htimer, htimers]

theorem awaited_eq_none {c : Client} (h : c.timer = none) : c.awaited = none := by
  rw [awaited, h]
  rfl

@[simp] theorem scheduleReconnect_awaited (c : Client) (now : Double) (d : Descriptor) :
    (c.scheduleReconnect now d).awaited = some d := by
  simp [awaited, scheduleReconnect]

theorem disconnect_timer (c : Client) : c.disconnect.timer = c.timer :=
  congrArg Prod.fst c.disconnect_timing

theorem connect_timer (c : Client) (d : Descriptor) : (c.connect d).timer = none :=
  (disconnect_timer _).trans c.cancelTimer_timer

/-- What a report of an engine, or of none, comes to. -/
theorem discover_cases {c : Client} (hlinks : c.LinksSound) (hopen : c.closed = false)
    (now : Double) (d : Option Descriptor) (liveness : Liveness) :
    (d ≠ none ∧ (c.descriptor = d ∨ liveness = .unknown) ∧ c.discover now d liveness = c) ∨
    (c.descriptor ≠ d ∧ liveness ≠ .unknown ∧ ∃ engine, d = some engine ∧
      c.discover now d liveness = c.scheduleReconnect now engine) ∨
    (c.discover now d liveness).timer = none := by
  simp only [discover, hopen, Bool.false_eq_true, if_false]
  split
  · rename_i engine
    by_cases hcurrent : c.descriptor = some engine
    · -- A client with an engine is not disconnected.
      have hsession : c.session ≠ none := by
        intro hnone
        cases hcurrent.symm.trans (hlinks.descriptor.mpr hnone)
      have hstate : c.state ≠ .disconnected := mt hlinks.state.mp hsession
      exact Or.inl ⟨by simp, Or.inl hcurrent, by rw [if_pos ⟨hcurrent, hstate⟩]⟩
    · refine Or.inr (Or.inl ⟨hcurrent, by simp, engine, rfl, ?_⟩)
      rw [if_neg fun h => hcurrent h.1]
  · exact Or.inl ⟨by simp, Or.inr rfl, rfl⟩
  · exact Or.inr (Or.inr ((disconnect_timer _).trans c.cancelTimer_timer))

/-- A client that waits after a report was told of an engine. It waits for that engine, unless it
has the engine already or cannot tell whether it runs, and waited for another one before. -/
theorem discover_awaited {c : Client} (hlinks : c.LinksSound) (hopen : c.closed = false)
    {now : Double} {d : Option Descriptor} {liveness : Liveness} {engine : Descriptor}
    (h : (c.discover now d liveness).awaited = some engine) :
    ∃ reported, d = some reported ∧
      (reported = engine ↔ liveness ≠ .unknown ∧ c.descriptor ≠ some reported ∨
        c.awaited = some reported) := by
  rcases discover_cases hlinks hopen now d liveness with
    ⟨hd, hpassed, heq⟩ | ⟨hother, hknown, reported, rfl, heq⟩ | hnone
  · obtain ⟨reported, rfl⟩ := Option.ne_none_iff_exists'.mp hd
    rw [heq] at h
    refine ⟨reported, rfl, ?_⟩
    have hnot : ¬ (liveness ≠ .unknown ∧ c.descriptor ≠ some reported) := by
      rintro ⟨hknown, hother⟩
      exact hpassed.elim hother hknown
    rw [h, or_iff_right hnot, Option.some.injEq]
    exact eq_comm
  · rw [heq, scheduleReconnect_awaited] at h
    exact ⟨reported, rfl, iff_of_true (Option.some.inj h) (Or.inl ⟨hknown, hother⟩)⟩
  · cases (awaited_eq_none hnone).symm.trans h

/-- A timer that fires leaves the client without one. -/
theorem fireTimer_cases (c : Client) (k : Nat) :
    c.fireTimer k = c ∨ (c.fireTimer k).timer = none := by
  unfold fireTimer
  split
  · exact Or.inl rfl
  · split
    · right
      simp only
      split
      · rfl
      · exact connect_timer _ _
    · exact Or.inl rfl

/-- What happens by itself does not make a client wait for anything else. -/
theorem step_timing_of_spontaneous (c : Client) {e : ClientEvent} (he : e.isSpontaneous) {k : Nat}
    (hk : (c.step e).timer = some k) : (c.step e).timing = c.timing := by
  cases e with
  | timer j =>
    rcases c.fireTimer_cases j with heq | hnone
    · exact congrArg timing heq
    · cases hnone.symm.trans hk
  | session hear j e => exact (sessionStep_sessionEvent hear c j e).timing
  | _ => simp [ClientEvent.isSpontaneous] at he

theorem run_timing_of_spontaneous (c : Client) {events : List ClientEvent}
    (hevents : ∀ e ∈ events, e.isSpontaneous) {k : Nat} (hk : (c.run events).timer = some k) :
    (c.run events).timing = c.timing := by
  induction events generalizing c with
  | nil => rfl
  | cons e events ih =>
    have hlater := ih (c.step e) (fun e' he' => hevents e' (List.mem_cons_of_mem e he')) hk
    have htimer : (c.step e).timer = some k := (congrArg Prod.fst hlater).symm.trans hk
    exact hlater.trans (c.step_timing_of_spontaneous (hevents e List.mem_cons_self) htimer)

/-- The timer that a client waits for connects it to the engine that it waits for. -/
theorem fireTimer_eq_connect {c : Client} (htimers : c.TimersSound) (hopen : c.closed = false)
    {k : Nat} (hk : c.timer = some k) :
    ∃ engine, c.awaited = some engine ∧
      c.fireTimer k = ({ c.setTimerStatus k .fired with timer := none }).connect engine := by
  obtain ⟨t, ht, hpending⟩ := (htimers k).mp hk
  refine ⟨t.descriptor, ?_, ?_⟩
  · rw [awaited, hk, Option.bind_some, ht]
    rfl
  · have hopen' : (c.setTimerStatus k .fired).closed = false := hopen
    simp only [fireTimer, ht, if_pos hpending, hopen', Bool.false_eq_true, if_false]

/-! While only reports come from outside, a client never waits for the engine that it has. -/

theorem closeSession_descriptor (c : Client) (k : Nat) :
    (c.closeSession k).descriptor = c.descriptor ∨ (c.closeSession k).descriptor = none := by
  unfold closeSession
  split
  · exact Or.inr rfl
  · exact Or.inl rfl

theorem opened_descriptor (c : Client) (k : Nat) (o : Opening) :
    (c.opened k o).descriptor = c.descriptor ∨ (c.opened k o).descriptor = none := by
  simp only [opened]
  split
  · split
    · exact closeSession_descriptor _ k
    · exact closeSession_descriptor _ k
    · exact Or.inl rfl
  · exact Or.inl rfl

/-- What happens to a session takes the engine from the client or leaves it. -/
theorem SessionStep.descriptor {hear : Listener} {c c' : Client} {k : Nat}
    (h : SessionStep hear c k c') : c'.descriptor = c.descriptor ∨ c'.descriptor = none := by
  cases h with
  | ignored => exact Or.inl rfl
  | closed warnings => exact closeSession_descriptor _ k
  | ended => exact Or.inl rfl
  | begun => exact Or.inl rfl
  | opened _ _ o => exact c.opened_descriptor k o
  | received _ _ _ bytes =>
    obtain ⟨c', _, hlinks, heq | heq⟩ := received_cases hear c k bytes
    · rw [heq]
      exact Or.inl (congrArg (·.2.1) hlinks)
    · rw [heq, ← show c'.descriptor = c.descriptor from congrArg (·.2.1) hlinks]
      exact closeSession_descriptor c' k

/-- The client does not wait for the engine that it has. -/
def AwaitsAnother (c : Client) : Prop :=
  ∀ engine, c.awaited = some engine → c.descriptor ≠ some engine

theorem awaitsAnother_of_timer {c : Client} (h : c.timer = none) : c.AwaitsAnother := by
  intro engine hengine
  rw [awaited_eq_none h] at hengine
  cases hengine

theorem AwaitsAnother.step {c : Client} (h : c.AwaitsAnother) (hlinks : c.LinksSound)
    (hopen : c.closed = false) {e : ClientEvent} (he : e.isReport ∨ e.isSpontaneous) :
    (c.step e).AwaitsAnother := by
  cases e with
  | discover now d liveness =>
    rcases discover_cases hlinks hopen now d liveness with
      ⟨_, _, heq⟩ | ⟨hother, _, engine, rfl, heq⟩ | hnone
    · rw [Client.step, heq]
      exact h
    · rw [Client.step, heq]
      rintro _ hengine
      rw [scheduleReconnect_awaited] at hengine
      cases hengine
      rw [show (c.scheduleReconnect now engine).descriptor = c.descriptor from
        congrArg (·.2.1) (c.scheduleReconnect_links now engine)]
      exact hother
    · exact awaitsAnother_of_timer hnone
  | timer k =>
    rcases c.fireTimer_cases k with heq | hnone
    · rw [Client.step, heq]
      exact h
    · exact awaitsAnother_of_timer hnone
  | session hear k e =>
    have hstep := sessionStep_sessionEvent hear c k e
    intro engine hengine
    rw [Client.step, awaited_of_timing hstep.timing] at hengine
    rw [Client.step]
    rcases hstep.descriptor with heq | heq <;> rw [heq]
    · exact h engine hengine
    · simp
  | _ => simp [ClientEvent.isReport, ClientEvent.isSpontaneous] at he

theorem AwaitsAnother.run {c : Client} (h : c.AwaitsAnother) (hlinks : c.LinksSound)
    (hopen : c.closed = false) {events : List ClientEvent}
    (hevents : ∀ e ∈ events, e.isReport ∨ e.isSpontaneous) : (c.run events).AwaitsAnother := by
  induction events generalizing c with
  | nil => exact h
  | cons e events ih =>
    have he := hevents e List.mem_cons_self
    exact ih (h.step hlinks hopen he) (kept_linksSound.step e hlinks)
      ((c.step_closed he).trans hopen) fun e' he' => hevents e' (List.mem_cons_of_mem e he')

/-- A client that has not been shut down gets reports, the last of them on `d`, while timers fire
and sessions go on. The timer that fires then connects to the engine of that last report exactly if
it could be told whether this engine runs and the report did not name the engine that the client
had already, or if the client waited for that engine before. If no timer was set before the reports
began and it could be told whether the engine runs, the client never waited for it before. -/
theorem fireTimer_latest_report_iff (settings : ClientSettings) (registry : Registry)
    (nesting : Nat) (earlier reports later : List ClientEvent) (now : Double)
    (d : Option Descriptor) (liveness : Liveness) (k : Nat)
    (hopen : ((ofRegistry settings registry nesting).run earlier).closed = false)
    (hreports : ∀ e ∈ reports, e.isReport ∨ e.isSpontaneous)
    (hlater : ∀ e ∈ later, e.isSpontaneous) :
    let start := (ofRegistry settings registry nesting).run earlier
    let told := start.run reports
    let c := told.run (.discover now d liveness :: later)
    c.timer = some k →
      ∃ engine, (c.fireTimer k).descriptor = some engine ∧ (c.fireTimer k).state = .connecting ∧
        (c.fireTimer k).sessions.getLast? = some ⟨engine, .created, false⟩ ∧
        (d = some engine ↔ liveness ≠ .unknown ∧ told.descriptor ≠ d ∨ told.awaited = d) ∧
        (start.timer = none → liveness ≠ .unknown → (d = some engine ↔ told.descriptor ≠ d)) := by
  intro start told c hk
  have hlinks : told.LinksSound := by
    change (start.run reports).LinksSound
    exact kept_linksSound.run (kept_linksSound.run (linksSound_ofRegistry _ _ _) earlier) reports
  have htimers : c.TimersSound :=
    kept_timersSound.run (kept_timersSound.run (kept_timersSound.run
      (timersSound_ofRegistry settings registry nesting) earlier) reports) _
  have htold : told.closed = false := (start.run_closed hreports).trans hopen
  have hclosed : c.closed = false :=
    ((told.discover now d liveness).run_closed fun e he => Or.inr (hlater e he)).trans
      ((told.discover_closed now d liveness).trans htold)
  obtain ⟨engine, hawaited, hfire⟩ := fireTimer_eq_connect htimers hclosed hk
  have htiming : c.timing = (told.discover now d liveness).timing :=
    (told.discover now d liveness).run_timing_of_spontaneous hlater hk
  rw [awaited_of_timing htiming] at hawaited
  obtain ⟨reported, rfl, hiff⟩ := discover_awaited hlinks htold hawaited
  refine ⟨engine, by rw [hfire]; rfl, by rw [hfire]; rfl, by rw [hfire]; simp [connect], ?_, ?_⟩
  · rw [Option.some.injEq]
    exact hiff
  · intro hstart hknown
    have hanother : told.AwaitsAnother := by
      refine (awaitsAnother_of_timer hstart).run ?_ hopen hreports
      exact kept_linksSound.run (linksSound_ofRegistry settings registry nesting) earlier
    rw [Option.some.injEq, hiff, and_iff_right hknown, or_iff_left_of_imp (hanother reported)]

/-- A client that is connected is told of two other engines, and then receives something. -/
theorem fireTimer_latest_report_third :
    let third : Descriptor := ⟨4002, 3⟩
    let reports : List ClientEvent :=
      [.discover default (some ⟨4000, 1⟩) .running, .timer 0, .session (fun _ => none) 0 .begun,
        .session (fun _ => none) 0 (.openingEnded .opened),
        .discover default (some ⟨4001, 2⟩) .running]
    let c := (((ofRegistry default default).run []).run reports).run
      [.discover default (some third) .running, .session (fun _ => none) 0 (.received [10])]
    c.timer = some 2 ∧ (c.fireTimer 2).descriptor = some third := by
  intro third reports c
  have htimer : c.timer = some 2 := by decide
  obtain ⟨engine, hengine, _, _, _, hiff⟩ :=
    fireTimer_latest_report_iff default default _ [] reports
      [.session (fun _ => none) 0 (.received [10])] default (some third) .running 2 rfl
      (by decide) (by decide) htimer
  have hthird : some third = some engine := (hiff rfl (by decide)).mpr (by decide)
  exact ⟨htimer, hengine.trans hthird.symm⟩

/-- The client has the engine at port 4000, is told of another one at port 4001, and then again of
the first. The last report is on the engine that it has, and yet the timer connects to the other. -/
theorem fireTimer_latest_report_lost :
    let first : Descriptor := ⟨4000, 1⟩
    let second : Descriptor := ⟨4001, 2⟩
    let c := (ofRegistry default default).run
      [.discover default (some first) .running, .timer 0, .session (fun _ => none) 0 .begun,
        .session (fun _ => none) 0 (.openingEnded .opened),
        .discover default (some second) .running, .discover default (some first) .running]
    c.closed = false ∧ c.state = .connected ∧ c.descriptor = some first ∧ c.timer = some 1 ∧
      (c.fireTimer 1).descriptor = some second := by
  decide

end Client

end PatternServer.Engine
