import PatternServer.Proofs.SessionLines

/-!
# Sessions that end unseen

A client goes by its state when it is told of an engine: while it has the engine, a report of it is
passed over. So a session that ends has to be given up by the client. It is, once it has a
connection and when a connection is refused. A session that ends earlier in another way is lost: the
client goes on as if it were still at work. These are the only ones.
-/

namespace PatternServer.Engine.Client

set_option autoImplicit false

open PatternServer.Number PatternServer.Vocabulary

/-- The session that an event ends without the client's being told. -/
def lostAt (c : Client) : ClientEvent → List Nat
  | .session _ k e =>
    match c.sessions[k]?.map Session.phase, e with
    | some .created, .stopped => [k]
    | some .opening, .stopped => [k]
    | some .opening, .openingEnded .failed => [k]
    | _, _ => []
  | _ => []

/-- The sessions that are lost along a run. -/
def lostAlong (c : Client) : List ClientEvent → List Nat
  | [] => []
  | e :: events => c.lostAt e ++ (c.step e).lostAlong events

/-- The client's session, with its place. -/
structure Current (c : Client) (k : Nat) (s : Session) : Prop where
  own : c.session = some k
  place : c.sessions[k]? = some s

theorem mem_lostAt_session {c : Client} {hear : Listener} {j k : Nat} {e : SessionEvent}
    (h : k ∈ c.lostAt (.session hear j e)) : k = j ∧ k < c.sessions.length := by
  simp only [lostAt] at h
  cases hs : c.sessions[j]? with
  | none => simp [hs] at h
  | some s =>
    have hlt := (List.getElem?_eq_some_iff.mp hs).1
    have hk : k = j := by
      rw [hs] at h
      split at h <;> simp_all
    exact ⟨hk, hk ▸ hlt⟩

theorem Current.setPhase {c : Client} {k : Nat} {s : Session} (h : c.Current k s) (phase : Phase) :
    (c.setPhase k phase).Current k { s with phase } where
  own := h.own
  place := by
    change (c.sessions.modify k _)[k]? = _
    rw [List.getElem?_modify_eq, h.place]
    rfl

/-- The client still has its session, which is over only if it was before or is lost at the
event. -/
def Keeps (c : Client) (k : Nat) (s : Session) (e : ClientEvent) : Prop :=
  ∃ phase, (c.step e).Current k { s with phase } ∧ (c.step e).descriptor = c.descriptor ∧
    (phase = .finished ↔ s.phase = .finished ∨ k ∈ c.lostAt e)

theorem Current.keeps_of_eq {c : Client} {k : Nat} {s : Session} (h : c.Current k s)
    {e : ClientEvent} (hstep : c.step e = c) (hlost : c.lostAt e = []) : c.Keeps k s e := by
  refine ⟨s.phase, ?_, by rw [hstep], by simp [hlost]⟩
  rw [hstep]
  exact h

theorem Current.keeps_of_setPhase {c c' : Client} {k : Nat} {s : Session} (h : c.Current k s)
    {e : ClientEvent} {phase : Phase} (hstep : c.step e = c'.setPhase k phase)
    (hsession : c'.session = c.session) (hsessions : c'.sessions = c.sessions)
    (hdescriptor : c'.descriptor = c.descriptor)
    (hphase : phase = .finished ↔ s.phase = .finished ∨ k ∈ c.lostAt e) : c.Keeps k s e := by
  have h' : c'.Current k s := ⟨hsession.trans h.own, by rw [hsessions, h.place]⟩
  refine ⟨phase, ?_, by rw [hstep]; exact hdescriptor, hphase⟩
  rw [hstep]
  exact h'.setPhase phase

/-- The end of an attempt of the client's session to open a connection. -/
theorem Current.openingEnded_cases {c : Client} {k : Nat} {d : Descriptor}
    (h : c.Current k ⟨d, .opening, false⟩) (hear : Listener) (o : Opening) :
    (c.step (.session hear k (.openingEnded o))).session ≠ some k ∨
      c.Keeps k ⟨d, .opening, false⟩ (.session hear k (.openingEnded o)) := by
  have hown : c.addConnection.session = some k := h.own
  have hstep : c.step (.session hear k (.openingEnded o)) = c.openingEnded k d o := by
    simp only [step, sessionEvent, h.place, react]
  rw [hstep]
  cases o with
  | opened =>
    simp only [openingEnded, opened, if_pos hown] at hstep
    exact Or.inr (h.keeps_of_setPhase hstep rfl rfl rfl (by simp [lostAt, h.place]))
  | openedUnwritable reason =>
    simp only [openingEnded, opened, if_pos hown]
    exact Or.inl (closeSession_session _ k)
  | openedBroken reason =>
    simp only [openingEnded, opened, if_pos hown]
    exact Or.inl (closeSession_session _ k)
  | refused reason => exact Or.inl (closeSession_session _ k)
  | failed => exact Or.inr (h.keeps_of_setPhase hstep rfl rfl rfl (by simp [lostAt, h.place]))

theorem Current.received_cases {c : Client} {k : Nat} {d : Descriptor} {w : Nat}
    (h : c.Current k ⟨d, .reading w, false⟩) (hear : Listener) (bytes : List UInt8) :
    (c.step (.session hear k (.received bytes))).session ≠ some k ∨
      c.Keeps k ⟨d, .reading w, false⟩ (.session hear k (.received bytes)) := by
  have hstep : c.step (.session hear k (.received bytes)) = c.received hear k bytes := by
    simp [step, sessionEvent, h.place, react]
  obtain ⟨c', _, hlinks, heq | heq⟩ := Client.received_cases hear c k bytes
  · simp only [links, Prod.mk.injEq] at hlinks
    obtain ⟨_, hdescriptor, hsession, _, hsessions, _⟩ := hlinks
    refine Or.inr ⟨.reading w, ⟨?_, ?_⟩, ?_, by simp [lostAt, h.place]⟩ <;> rw [hstep, heq]
    · rw [hsession, h.own]
    · rw [hsessions, h.place]
    · exact hdescriptor
  · rw [hstep, heq]
    exact Or.inl (closeSession_session c' k)

/-- Whatever happens to the client's own session, the client gives it up or keeps it. -/
theorem Current.sessionEvent_cases {c : Client} {k : Nat} {s : Session} (h : c.Current k s)
    (hlive : s.cancelled = false) (hear : Listener) (e : SessionEvent) :
    (c.step (.session hear k e)).session ≠ some k ∨ c.Keeps k s (.session hear k e) := by
  obtain ⟨d, phase, cancelled⟩ := s
  subst hlive
  have hreact : c.step (.session hear k e) = c.react hear k ⟨d, phase, false⟩ e := by
    simp only [step, sessionEvent, h.place]
  have hgone : ∀ c' : Client, c.step (.session hear k e) = c'.closeSession k →
      (c.step (.session hear k e)).session ≠ some k := by
    intro c' heq
    rw [heq]
    exact c'.closeSession_session k
  cases phase with
  | created =>
    cases e with
    | begun =>
      exact Or.inr (h.keeps_of_setPhase hreact rfl rfl rfl (by simp [lostAt]))
    | stopped =>
      exact Or.inr (h.keeps_of_setPhase hreact rfl rfl rfl (by simp [lostAt, h.place]))
    | _ => exact Or.inr (h.keeps_of_eq hreact (by simp [lostAt, h.place]))
  | opening =>
    cases e with
    | openingEnded o => exact h.openingEnded_cases hear o
    | stopped =>
      exact Or.inr (h.keeps_of_setPhase hreact rfl rfl rfl (by simp [lostAt, h.place]))
    | _ => exact Or.inr (h.keeps_of_eq hreact (by simp [lostAt, h.place]))
  | reading w =>
    cases e with
    | received bytes => exact h.received_cases hear bytes
    | streamEnded => exact Or.inl (hgone c hreact)
    | broken reason => exact Or.inl (hgone _ hreact)
    | stopped => exact Or.inl (hgone c hreact)
    | _ => exact Or.inr (h.keeps_of_eq hreact (by simp [lostAt, h.place]))
  | finished => exact Or.inr (h.keeps_of_eq hreact (by simp [lostAt, h.place]))

/-- What happens to another session leaves the client's own as it is. -/
theorem LinksSound.step_other {c : Client} (h : c.LinksSound) (hear : Listener) {j : Nat}
    (hj : c.session ≠ some j) (e : SessionEvent) :
    (c.step (.session hear j e)).descriptor = c.descriptor ∧
      ∀ k, j ≠ k → (c.step (.session hear j e)).sessions[k]? = c.sessions[k]? := by
  have hstep : SessionStep hear c j (c.step (.session hear j e)) :=
    sessionStep_sessionEvent hear c j e
  rcases hstep.of_left h hj with heq | ⟨added, warnings, _, heq⟩ <;> rw [heq]
  · exact ⟨rfl, fun _ _ => rfl⟩
  · exact ⟨rfl, fun _ hjk => List.getElem?_modify_ne _ _ hjk⟩

/-- What a client knows of its session when the sessions of `lost` are those that were lost. -/
structure Accounted (c : Client) (lost : List Nat) : Prop where
  links : c.LinksSound
  live : c.OwnSessionLive
  known : ∀ k ∈ lost, k < c.sessions.length
  engine : ∀ {k s}, c.Current k s → c.descriptor = some s.descriptor
  finished : ∀ {k s}, c.Current k s → (s.phase = .finished ↔ k ∈ lost)

namespace Accounted

variable {c : Client} {lost : List Nat}

theorem of_links {c' : Client} (h : c.Accounted lost) (heq : c'.links = c.links) :
    c'.Accounted lost := by
  obtain ⟨hsession, hsessions⟩ := session_sessions_of_links heq
  have hdescriptor : c'.descriptor = c.descriptor := congrArg (·.2.1) heq
  have hcurrent : ∀ {k s}, c'.Current k s → c.Current k s := by
    intro k s hks
    exact ⟨hsession ▸ hks.own, hsessions ▸ hks.place⟩
  refine ⟨h.links.of_links heq, h.live.of_links heq, ?_, ?_, fun hks => h.finished (hcurrent hks)⟩
  · rw [hsessions]
    exact h.known
  · intro k s hks
    rw [hdescriptor]
    exact h.engine (hcurrent hks)

theorem of_session (hlinks : c.LinksSound) (hknown : ∀ k ∈ lost, k < c.sessions.length)
    (hnone : c.session = none) : c.Accounted lost where
  links := hlinks
  live := .of_session hnone
  known := hknown
  engine := fun hks => by cases hnone.symm.trans hks.own
  finished := fun hks => by cases hnone.symm.trans hks.own

theorem disconnect (h : c.Accounted lost) : c.disconnect.Accounted lost := by
  refine of_session h.links.disconnect ?_ c.disconnect_session
  rw [disconnect_sessions_length]
  exact h.known

theorem connect (h : c.Accounted lost) (d : Descriptor) : (c.connect d).Accounted lost := by
  have hknown : ∀ k ∈ lost, k < c.cancelTimer.disconnect.sessions.length := by
    rw [disconnect_sessions_length, (session_sessions_of_links c.cancelTimer_links).2]
    exact h.known
  have hnew : ∀ {k s}, (c.connect d).Current k s →
      k = c.cancelTimer.disconnect.sessions.length ∧ s = ⟨d, .created, false⟩ := by
    intro k s hks
    have hk : c.cancelTimer.disconnect.sessions.length = k := Option.some.inj hks.own
    rcases getElem?_snoc_cases hks.place with hs | ⟨hlen, rfl⟩
    · have := (List.getElem?_eq_some_iff.mp hs).1
      omega
    · exact ⟨hlen, rfl⟩
  refine ⟨h.links.connect d, .connect c d, ?_, ?_, ?_⟩
  · intro k hk
    have hlen : (c.connect d).sessions.length = c.cancelTimer.disconnect.sessions.length + 1 :=
      List.length_append
    have := hknown k hk
    omega
  · intro k s hks
    rw [(hnew hks).2]
    rfl
  · intro k s hks
    obtain ⟨rfl, rfl⟩ := hnew hks
    refine iff_of_false (by simp) fun hmem => ?_
    exact Nat.lt_irrefl _ (hknown _ hmem)

theorem operationsKeep (lost : List Nat) : OperationsKeep fun c => c.Accounted lost where
  watched := fun _ _ _ _ _ h => h.of_links rfl
  cancelTimer := fun c h => h.of_links c.cancelTimer_links
  fired := fun _ _ _ _ _ h => h.of_links rfl
  scheduled := fun c now d h => h.of_links (c.scheduleReconnect_links now d)
  disconnect := fun _ h => h.disconnect
  connect := fun _ d h => h.connect d

theorem sessionEvent (h : c.Accounted lost) (hear : Listener) (j : Nat) (e : SessionEvent) :
    (c.step (.session hear j e)).Accounted (lost ++ c.lostAt (.session hear j e)) := by
  have hlinks := kept_linksSound.step (.session hear j e) h.links
  have hlive := kept_ownSessionLive.step (.session hear j e) h.live
  have hstep : SessionStep hear c j (c.step (.session hear j e)) :=
    sessionStep_sessionEvent hear c j e
  have hknown : ∀ k ∈ lost ++ c.lostAt (.session hear j e),
      k < (c.step (.session hear j e)).sessions.length := by
    intro k hk
    rw [hstep.session.2]
    rcases List.mem_append.mp hk with hk | hk
    · exact h.known k hk
    · exact (mem_lostAt_session hk).2
  -- It is enough to follow the session that the client still has afterwards.
  have hfollow : ∀ {k s}, (c.step (.session hear j e)).Current k s →
      (c.step (.session hear j e)).descriptor = some s.descriptor ∧
        (s.phase = .finished ↔ k ∈ lost ++ c.lostAt (.session hear j e)) := by
    intro k s hks
    have hk : c.session = some k := by
      rcases hstep.session.1 with heq | heq
      · rw [← heq, hks.own]
      · cases heq.symm.trans hks.own
    obtain ⟨t, ht⟩ : ∃ t, c.sessions[k]? = some t :=
      ⟨_, List.getElem?_eq_getElem (h.links.current k hk)⟩
    by_cases hjk : j = k
    · subst hjk
      rcases Current.sessionEvent_cases ⟨hk, ht⟩ (h.live j t hk ht) hear e with
        hgone | ⟨phase, hkept, hdescriptor, hphase⟩
      · exact absurd hks.own hgone
      · cases hkept.place.symm.trans hks.place
        rw [hdescriptor, h.engine ⟨hk, ht⟩, hphase, h.finished ⟨hk, ht⟩, List.mem_append]
        exact ⟨rfl, Iff.rfl⟩
    · have hj : c.session ≠ some j := by
        rw [hk]
        simpa using Ne.symm hjk
      have hnot : k ∉ c.lostAt (.session hear j e) :=
        fun hmem => hjk (mem_lostAt_session hmem).1.symm
      obtain ⟨hdescriptor, hsessions⟩ := h.links.step_other hear hj e
      have hs : c.Current k s := ⟨hk, (hsessions k hjk).symm.trans hks.place⟩
      rw [hdescriptor, h.finished hs, List.mem_append]
      exact ⟨h.engine hs, (or_iff_left hnot).symm⟩
  exact ⟨hlinks, hlive, hknown, fun hks => (hfollow hks).1, fun hks => (hfollow hks).2⟩

theorem step (h : c.Accounted lost) (e : ClientEvent) :
    (c.step e).Accounted (lost ++ c.lostAt e) := by
  cases e with
  | session hear k e => exact h.sessionEvent hear k e
  | _ =>
    simp only [lostAt, List.append_nil]
    exact (operationsKeep lost).step (by simp) h

theorem run (h : c.Accounted lost) (events : List ClientEvent) :
    (c.run events).Accounted (lost ++ c.lostAlong events) := by
  induction events generalizing c lost with
  | nil =>
    rw [lostAlong, List.append_nil]
    exact h
  | cons e events ih =>
    rw [lostAlong, ← List.append_assoc]
    exact ih (h.step e)

end Accounted

theorem accounted_ofRegistry (settings : ClientSettings) (registry : Registry) (nesting : Nat) :
    (ofRegistry settings registry nesting).Accounted [] :=
  .of_session (linksSound_ofRegistry settings registry nesting) (by simp) rfl

/-! Reports that are passed over. -/

theorem scheduleReconnect_ne (c : Client) (now : Double) (d : Descriptor) :
    c.scheduleReconnect now d ≠ c := by
  intro h
  have hlength : (c.scheduleReconnect now d).timers.length = c.timers.length + 1 := by
    rw [show (c.scheduleReconnect now d).timers = c.cancelTimer.timers ++ [_] from rfl,
      List.length_append]
    unfold cancelTimer
    split
    · rfl
    · simp [setTimerStatus]
  rw [h] at hlength
  omega

theorem Accounted.state_ne_iff {c : Client} {lost : List Nat} (h : c.Accounted lost) :
    c.state ≠ .disconnected ↔ ∃ k s, c.Current k s := by
  rw [Ne, h.links.state]
  constructor
  · intro hsession
    obtain ⟨k, hk⟩ := Option.ne_none_iff_exists'.mp hsession
    exact ⟨k, _, hk, List.getElem?_eq_getElem (h.links.current k hk)⟩
  · rintro ⟨k, s, hks⟩ hnone
    cases hnone.symm.trans hks.own

/-- A report of a running engine is passed over just when the client's session is for it. -/
theorem Accounted.discover_eq_self_iff {c : Client} {lost : List Nat} (h : c.Accounted lost)
    (hopen : c.closed = false) (now : Double) (d : Descriptor) :
    c.discover now (some d) .running = c ↔ ∃ k s, c.Current k s ∧ s.descriptor = d := by
  have hpassed : c.discover now (some d) .running = c ↔
      c.descriptor = some d ∧ c.state ≠ .disconnected := by
    simp only [discover, hopen, Bool.false_eq_true, if_false]
    split
    · rename_i hcurrent
      exact iff_of_true rfl hcurrent
    · rename_i hcurrent
      exact iff_of_false (c.scheduleReconnect_ne now d) hcurrent
  rw [hpassed, h.state_ne_iff]
  constructor
  · rintro ⟨hd, k, s, hks⟩
    exact ⟨k, s, hks, Option.some.inj ((h.engine hks).symm.trans hd)⟩
  · rintro ⟨k, s, hks, rfl⟩
    exact ⟨h.engine hks, k, s, hks⟩

/-- After any run, a client that is not disconnected has a session for its engine, and that session
is over just when it has been lost. While the client is open, a report of a running engine is passed
over just when the client has a session for it. -/
theorem run_session_over_iff_lost (settings : ClientSettings) (registry : Registry) (nesting : Nat)
    (events : List ClientEvent) :
    let new := ofRegistry settings registry nesting
    let c := new.run events
    (c.state ≠ .disconnected ↔ ∃ k s, c.Current k s) ∧
      (∀ k s, c.Current k s → c.descriptor = some s.descriptor ∧
        (s.phase = .finished ↔ k ∈ new.lostAlong events)) ∧
      ∀ now d, c.closed = false →
        (c.discover now (some d) .running = c ↔ ∃ k s, c.Current k s ∧ s.descriptor = d) := by
  intro new c
  have h : c.Accounted (new.lostAlong events) := by
    rw [← List.nil_append (new.lostAlong events)]
    exact (accounted_ofRegistry settings registry nesting).run events
  refine ⟨h.state_ne_iff, ?_, ?_⟩
  · intro k s hks
    exact ⟨h.engine hks, h.finished hks⟩
  · intro now d hopen
    exact h.discover_eq_self_iff hopen now d

/-- The first connection is refused, and the second session then waits for its own. -/
theorem run_session_over_iff_lost_second :
    let quiet : Listener := fun _ => none
    let events : List ClientEvent :=
      [.connect ⟨4000, 1⟩, .session quiet 0 .begun,
        .session quiet 0 (.openingEnded (.refused "no")), .connect ⟨4000, 1⟩,
        .session quiet 1 .begun]
    let c := (ofRegistry default default).run events
    let s : Session := ⟨⟨4000, 1⟩, .opening, false⟩
    c.Current 1 s ∧ c.closed = false ∧ s.phase ≠ .finished ∧
      1 ∉ (ofRegistry default default).lostAlong events ∧
      c.discover .zero (some ⟨4000, 1⟩) .running = c := by
  intro quiet events c s
  have hcurrent : c.Current 1 s := ⟨by decide, by decide⟩
  have hopen : c.closed = false := by decide
  have hphase : s.phase ≠ .finished := by decide
  obtain ⟨_, hover, hpassed⟩ := run_session_over_iff_lost default default _ events
  exact ⟨hcurrent, hopen, hphase, fun hlost => hphase ((hover 1 s hcurrent).2.mpr hlost),
    (hpassed .zero ⟨4000, 1⟩ hopen).mpr ⟨1, s, hcurrent, rfl⟩⟩

/-- Opening a connection to a port that there is none of fails without being refused: the client
goes on connecting with a session that is over, and passes over the next report of the engine. -/
theorem run_session_over_while_connecting :
    let quiet : Listener := fun _ => none
    let c := (ofRegistry default default).run
      [.connect ⟨65536, 1⟩, .session quiet 0 .begun, .session quiet 0 (.openingEnded .failed)]
    c.state = .connecting ∧ c.Current 0 ⟨⟨65536, 1⟩, .finished, false⟩ ∧
      c.discover .zero (some ⟨65536, 1⟩) .running = c := by
  intro quiet c
  exact ⟨by decide, ⟨by decide, by decide⟩, by decide⟩

end PatternServer.Engine.Client
