import PatternServer.Proofs.ClientRuns

/-!
# Sessions and connections of the engine client

How the state of a client, its session and its connections hang together after any run. A session
that has been replaced goes on until it learns of it, and may still be given a connection; the
invariant says that it can then do nothing to the client.
-/

namespace PatternServer.Engine.Client

set_option autoImplicit false

open PatternServer.Vocabulary

/-- How the fields of a client that are about its session fit together. -/
structure LinksSound (c : Client) : Prop where
  state : c.state = .disconnected ↔ c.session = none
  descriptor : c.descriptor = none ↔ c.session = none
  writer : c.writer.isSome ↔ c.state = .connected
  current : ∀ k, c.session = some k → k < c.sessions.length
  /-- Of the sessions that read, the client's own is the one that reads what the client writes
  to. -/
  reading : ∀ k s w, c.sessions[k]? = some s → s.phase = .reading w →
    w < c.connections.length ∧ (c.writer = some w ↔ c.session = some k)
  writing : ∀ w, c.writer = some w →
    ∃ k s, c.session = some k ∧ c.sessions[k]? = some s ∧ s.phase = .reading w
  closed : ∀ w n, c.connections[w]? = some n → (0 < n.closes ↔ c.writer ≠ some w)
  /-- A session that is no longer the client's has been asked to stop, unless it is over. -/
  left : ∀ k s, c.sessions[k]? = some s → c.session ≠ some k →
    s.phase = .finished ∨ s.cancelled = true

namespace LinksSound

variable {c : Client}

theorem of_links {c' : Client} (h : c.LinksSound) (heq : c'.links = c.links) : c'.LinksSound := by
  simp only [links, Prod.mk.injEq] at heq
  obtain ⟨hstate, hdescriptor, hsession, hwriter, hsessions, hconnections⟩ := heq
  constructor <;> simp only [hstate, hdescriptor, hsession, hwriter, hsessions, hconnections]
  · exact h.state
  · exact h.descriptor
  · exact h.writer
  · exact h.current
  · exact h.reading
  · exact h.writing
  · exact h.closed
  · exact h.left

theorem writer_none_of_session (h : c.LinksSound) (hs : c.session = none) : c.writer = none := by
  cases hw : c.writer with
  | none => rfl
  | some w =>
    obtain ⟨k, _, hk, _⟩ := h.writing w hw
    rw [hs] at hk
    cases hk

/-- While the session of a client does not read, the client has nothing to write to. -/
theorem writer_none_of_phase (h : c.LinksSound) {k : Nat} {s : Session}
    (hk : c.session = some k) (hs : c.sessions[k]? = some s)
    (hphase : ∀ w, s.phase ≠ .reading w) : c.writer = none := by
  cases hw : c.writer with
  | none => rfl
  | some w =>
    obtain ⟨j, t, hj, ht, htw⟩ := h.writing w hw
    rw [hk, Option.some.injEq] at hj
    subst hj
    rw [hs, Option.some.injEq] at ht
    subst ht
    exact absurd htw (hphase w)

theorem cancelled_of_left (h : c.LinksSound) {k : Nat} {s : Session} (hk : c.session ≠ some k)
    (hs : c.sessions[k]? = some s) (hphase : s.phase ≠ .finished) : s.cancelled = true :=
  (h.left k s hs hk).resolve_left hphase

/-- The connection of a session that is no longer the client's is closed. -/
theorem closed_of_left (h : c.LinksSound) {k w : Nat} {s : Session} (hk : c.session ≠ some k)
    (hs : c.sessions[k]? = some s) (hw : s.phase = .reading w) :
    ∃ n, c.connections[w]? = some n ∧ 0 < n.closes := by
  obtain ⟨hbound, hiff⟩ := h.reading k s w hs hw
  have hn := List.getElem?_eq_getElem hbound
  exact ⟨_, hn, (h.closed w _ hn).mpr fun hwriter => hk (hiff.mp hwriter)⟩

/-- The one connection that has not been closed is the one that the client writes to. -/
theorem writer_eq_some_iff (h : c.LinksSound) (w : Nat) :
    c.writer = some w ↔ ∃ n, c.connections[w]? = some n ∧ n.closes = 0 := by
  constructor
  · intro hw
    obtain ⟨k, s, _, hs, hsw⟩ := h.writing w hw
    have hn := List.getElem?_eq_getElem (h.reading k s w hs hsw).1
    exact ⟨_, hn, Nat.eq_zero_of_not_pos fun hpos => (h.closed w _ hn).mp hpos hw⟩
  · rintro ⟨n, hn, hopen⟩
    refine Decidable.byContradiction fun hw => ?_
    have hclosed := (h.closed w n hn).mpr hw
    omega

end LinksSound

/-! Letting go of a session. -/

@[simp] theorem dropWriter_writer (c : Client) : c.dropWriter.writer = none := by
  unfold dropWriter
  split
  · assumption
  · rfl

@[simp] theorem dropWriter_sessions (c : Client) : c.dropWriter.sessions = c.sessions := by
  unfold dropWriter
  split <;> rfl

/-- Letting go of the writer closes it and no other connection. -/
theorem dropWriter_connections (c : Client) (w : Nat) :
    c.dropWriter.connections[w]? = c.connections[w]?.map fun n =>
      if c.writer = some w then { n with closes := n.closes + 1 } else n := by
  unfold dropWriter
  split
  · rename_i hw
    simp [hw]
  · rename_i k hk
    rw [hk]
    simp only [closeConnection, Option.some.injEq]
    by_cases hkw : k = w
    · subst hkw
      simp
    · rw [List.getElem?_modify_ne _ _ hkw]
      simp [hkw]

theorem forget_connections_length (c : Client) :
    c.forget.connections.length = c.connections.length := by
  change c.dropWriter.connections.length = _
  unfold dropWriter
  split
  · rfl
  · exact List.length_modify _ _ _

theorem disconnect_session (c : Client) : c.disconnect.session = none := by
  unfold disconnect
  split <;> rfl

theorem forget_with_sessions (c : Client) (sessions : List Session) :
    ({ c with sessions } : Client).forget = { c.forget with sessions } := by
  obtain ⟨_, _, _, _, _, _, writer⟩ := c
  cases writer <;> rfl

/-- A client that had a session has let go of it. What is done to the session besides is to end it
or to ask it to stop. -/
theorem LinksSound.leave {c : Client} (h : c.LinksSound) {k : Nat} (hk : c.session = some k)
    {f : Session → Session} (hover : ∀ s, (f s).phase = .finished ∨ (f s).cancelled = true)
    (hreading : ∀ s w, (f s).phase = .reading w → s.phase = .reading w) :
    ({ c.forget with sessions := c.sessions.modify k f }).LinksSound where
  state := by simp [forget]
  descriptor := by simp [forget]
  writer := by simp [forget, resetBuffer]
  current := by simp [forget]
  reading := by
    intro j s w hs hw
    have hold : ∃ t, c.sessions[j]? = some t ∧ t.phase = .reading w := by
      rcases getElem?_modify_cases hs with ⟨rfl, t, ht, rfl⟩ | ⟨_, ht⟩
      · exact ⟨t, ht, hreading t w hw⟩
      · exact ⟨s, ht, hw⟩
    obtain ⟨t, ht, htw⟩ := hold
    refine ⟨?_, by simp [forget, resetBuffer]⟩
    rw [forget_connections_length]
    exact (h.reading j t w ht htw).1
  writing := by simp [forget, resetBuffer]
  closed := by
    intro w n hn
    change c.dropWriter.connections[w]? = some n at hn
    rw [dropWriter_connections] at hn
    obtain ⟨m, hm, rfl⟩ := Option.map_eq_some_iff.mp hn
    have hclosed := h.closed w m hm
    by_cases hw : c.writer = some w
    · simp [forget, resetBuffer, hw]
    · simpa [forget, resetBuffer, hw] using hclosed
  left := by
    intro j s hs _
    rcases getElem?_modify_cases hs with ⟨rfl, t, _, rfl⟩ | ⟨hjk, ht⟩
    · exact hover t
    · refine h.left j s ht ?_
      rw [hk]
      simpa using Ne.symm hjk

namespace LinksSound

variable {c : Client}

theorem forget_links (h : c.LinksSound) (hs : c.session = none) : c.forget.links = c.links := by
  have hw := h.writer_none_of_session hs
  have hdrop : c.dropWriter = c := by
    unfold dropWriter
    rw [hw]
  simp only [forget, hdrop, links, resetBuffer, hs, h.state.mpr hs, h.descriptor.mpr hs]

theorem disconnect (h : c.LinksSound) : c.disconnect.LinksSound := by
  unfold Client.disconnect
  split
  · rename_i hs
    exact h.of_links (h.forget_links hs)
  · rename_i k hk
    have hleft := h.leave hk (f := fun s =>
      if s.phase = .finished then s else { s with cancelled := true })
      (fun s => by by_cases hp : s.phase = .finished <;> simp [hp])
      (fun s w => by by_cases hp : s.phase = .finished <;> simp [hp])
    rwa [← forget_with_sessions] at hleft

theorem setPhase (h : c.LinksSound) {k : Nat} {p : Phase} (hp : ∀ w, p ≠ .reading w)
    (hwriter : c.session = some k → c.writer = none)
    (hleft : c.session = some k ∨ p = .finished) : (c.setPhase k p).LinksSound where
  state := h.state
  descriptor := h.descriptor
  writer := h.writer
  current := by
    intro j hj
    simpa [Client.setPhase] using h.current j hj
  reading := by
    intro j s w hs hw
    rcases getElem?_modify_cases hs with ⟨_, t, _, rfl⟩ | ⟨_, ht⟩
    · exact absurd hw (hp w)
    · exact h.reading j s w ht hw
  writing := by
    intro w hw
    obtain ⟨j, s, hj, hs, hsw⟩ := h.writing w hw
    have hjk : k ≠ j := by
      rintro rfl
      cases (hwriter hj).symm.trans hw
    exact ⟨j, s, hj, by rw [← hs]; exact List.getElem?_modify_ne _ _ hjk, hsw⟩
  closed := h.closed
  left := by
    intro j s hs hj
    rcases getElem?_modify_cases hs with ⟨rfl, t, _, rfl⟩ | ⟨_, ht⟩
    · exact Or.inl (hleft.resolve_left hj)
    · exact h.left j s ht hj

theorem finish (h : c.LinksSound) {k : Nat} (hwriter : c.session = some k → c.writer = none) :
    (c.finish k).LinksSound :=
  h.setPhase (fun _ => by simp) hwriter (Or.inr rfl)

theorem closeSession (h : c.LinksSound) (k : Nat) : (c.closeSession k).LinksSound := by
  unfold Client.closeSession
  split
  · rename_i hk
    have hleft := h.leave hk (f := fun s => { s with phase := .finished })
      (fun s => Or.inl rfl) (fun s w hw => by cases hw)
    refine hleft.of_links ?_
    simp [Client.finish, Client.setPhase, links, forget, resetBuffer]
  · rename_i hk
    exact h.finish fun hk' => absurd hk' hk

/-- A session begins while there is none. -/
theorem begin (h : c.LinksSound) (hs : c.session = none) (d : Descriptor) :
    ({ c with
      state := .connecting
      descriptor := some d
      session := some c.sessions.length
      sessions := c.sessions ++ [⟨d, .created, false⟩] } : Client).LinksSound where
  state := by simp
  descriptor := by simp
  writer := by simp [h.writer_none_of_session hs]
  current := by simp
  reading := by
    intro k s w hk hw
    rcases getElem?_snoc_cases hk with hk | ⟨_, rfl⟩
    · obtain ⟨hbound, hiff⟩ := h.reading k s w hk hw
      refine ⟨hbound, ?_⟩
      have hlt := (List.getElem?_eq_some_iff.mp hk).1
      simp only [hiff, hs, reduceCtorEq, Option.some.injEq, false_iff]
      omega
    · cases hw
  writing := by
    intro w hw
    cases (h.writer_none_of_session hs).symm.trans hw
  closed := h.closed
  left := by
    intro k s hk hne
    rcases getElem?_snoc_cases hk with hk | ⟨rfl, _⟩
    · exact h.left k s hk (by rw [hs]; exact Option.some_ne_none k |>.symm)
    · exact absurd rfl hne

theorem connect (h : c.LinksSound) (d : Descriptor) : (c.connect d).LinksSound :=
  (h.of_links c.cancelTimer_links).disconnect.begin (disconnect_session _) d

/-- Connections that are closed already are added. -/
theorem addClosed (h : c.LinksSound) {added : List Connection}
    (hadded : ∀ n ∈ added, 0 < n.closes) :
    ({ c with connections := c.connections ++ added } : Client).LinksSound where
  state := h.state
  descriptor := h.descriptor
  writer := h.writer
  current := h.current
  reading := by
    intro k s w hs hw
    obtain ⟨hbound, hiff⟩ := h.reading k s w hs hw
    refine ⟨?_, hiff⟩
    rw [List.length_append]
    omega
  writing := h.writing
  closed := by
    intro w n hn
    simp only at hn
    rw [List.getElem?_append] at hn
    split at hn
    · exact h.closed w n hn
    · rename_i hge
      refine iff_of_true (hadded n (List.mem_of_getElem? hn)) fun hw => ?_
      obtain ⟨k, s, _, hs, hsw⟩ := h.writing w hw
      exact hge (h.reading k s w hs hsw).1
  left := h.left

/-- The session of the client is given a connection, to which the client can write from now on. -/
theorem attach (h : c.LinksSound) {k : Nat} (hk : c.session = some k) (hw : c.writer = none) :
    (({ c.addConnection with
        writer := some c.connections.length
        state := .connected } : Client).setPhase k
      (.reading c.connections.length)).LinksSound where
  state := by simp [Client.setPhase, addConnection, hk]
  descriptor := h.descriptor
  writer := by simp [Client.setPhase]
  current := by
    intro j hj
    simpa [Client.setPhase, addConnection] using h.current j hj
  reading := by
    intro j s w hs hsw
    simp only [Client.setPhase, addConnection, List.length_append, List.length_singleton,
      Option.some.injEq]
    rcases getElem?_modify_cases hs with ⟨rfl, t, _, rfl⟩ | ⟨hjk, ht⟩
    · cases hsw
      simp [hk]
    · obtain ⟨hbound, _⟩ := h.reading j s w ht hsw
      rw [hk, Option.some.injEq]
      omega
  writing := by
    intro w hw'
    cases hw'
    obtain ⟨s, hs⟩ : ∃ s, c.sessions[k]? = some s :=
      ⟨_, List.getElem?_eq_getElem (h.current k hk)⟩
    exact ⟨k, _, hk, by simp [Client.setPhase, addConnection, hs]; rfl, rfl⟩
  closed := by
    intro w n hn
    simp only [Client.setPhase, ne_eq, Option.some.injEq]
    rcases getElem?_snoc_cases hn with hn | ⟨rfl, rfl⟩
    · have hbound := (List.getElem?_eq_some_iff.mp hn).1
      have hclosed := h.closed w n hn
      rw [hw] at hclosed
      refine iff_of_true (hclosed.mpr (by simp)) ?_
      omega
    · simp
  left := by
    intro j s hs hj
    rcases getElem?_modify_cases hs with ⟨rfl, _⟩ | ⟨_, ht⟩
    · exact absurd hk hj
    · exact h.left j s ht hj

theorem send (h : c.LinksSound) (k : Nat) (text : String) : (c.send k text).LinksSound where
  state := h.state
  descriptor := h.descriptor
  writer := h.writer
  current := h.current
  reading := by
    intro j s w hs hw
    simpa [Client.send] using h.reading j s w hs hw
  writing := h.writing
  closed := by
    intro w n hn
    rcases getElem?_modify_cases hn with ⟨rfl, m, hm, rfl⟩ | ⟨_, hn⟩
    · exact h.closed w m hm
    · exact h.closed w n hn
  left := h.left

end LinksSound

theorem setPhase_setPhase (c : Client) (k : Nat) (p q : Phase) :
    (c.setPhase k p).setPhase k q = c.setPhase k q := by
  unfold setPhase
  rw [List.modify_modify_eq]
  rfl

theorem forget_setPhase (c : Client) (k : Nat) (p : Phase) :
    (c.setPhase k p).forget = c.forget.setPhase k p := by
  have hsessions : c.forget.sessions = c.sessions := c.dropWriter_sessions
  rw [setPhase, forget_with_sessions, setPhase, hsessions]

/-- How a session ends does not depend on how far it had come. -/
theorem closeSession_setPhase (c : Client) (k : Nat) (p : Phase) :
    (c.setPhase k p).closeSession k = c.closeSession k := by
  have hsession : (c.setPhase k p).session = c.session := rfl
  unfold closeSession
  rw [hsession]
  split
  · rw [forget_setPhase]
    exact setPhase_setPhase _ k p _
  · exact setPhase_setPhase c k p _

/-! What happens to a session. -/

theorem modify_snoc {α : Type} (l : List α) (a : α) (f : α → α) :
    (l ++ [a]).modify l.length f = l ++ [f a] := by
  induction l with
  | nil => rfl
  | cons b l ih => simpa using ih

/-- A session that is no longer the client's can only end. If it is still given a connection, it
closes it. -/
theorem SessionStep.of_left {hear : Listener} {c c' : Client} {k : Nat} (h : c.LinksSound)
    (hk : c.session ≠ some k) (hstep : SessionStep hear c k c') :
    c' = c ∨ ∃ added warnings, (∀ n ∈ added, 0 < n.closes) ∧
      c' = ({ c with connections := c.connections ++ added, warnings } : Client).finish k := by
  cases hstep with
  | ignored => exact Or.inl rfl
  | closed warnings =>
    refine Or.inr ⟨[], warnings, by simp, ?_⟩
    simp [closeSession, hk]
  | ended => exact Or.inr ⟨[], c.warnings, by simp, by simp⟩
  | begun hs hphase hcancelled =>
    cases hcancelled.symm.trans (h.cancelled_of_left hk hs (by simp [hphase]))
  | opened =>
    refine Or.inr ⟨[⟨"", 1⟩], c.warnings, by simp, ?_⟩
    simp [Client.opened, addConnection, closeConnection, modify_snoc, hk]
  | received hs hphase hcancelled =>
    cases hcancelled.symm.trans (h.cancelled_of_left hk hs (by simp [hphase]))

namespace LinksSound

variable {c : Client}

theorem opened (h : c.LinksSound) {k : Nat} (hk : c.session = some k) (hw : c.writer = none)
    (o : Opening) : (c.opened k o).LinksSound := by
  have hattached := h.attach hk hw
  have hsent := hattached.send c.connections.length firstRequests
  have hsession : c.addConnection.session = some k := hk
  simp only [Client.opened, if_pos hsession]
  -- A connection that breaks at once is given up as if the session had begun to read.
  split
  · rw [← closeSession_setPhase _ k (.reading c.connections.length)]
    refine LinksSound.closeSession ?_ k
    exact hattached.of_links rfl
  · rw [← closeSession_setPhase _ k (.reading c.connections.length)]
    refine LinksSound.closeSession ?_ k
    exact hsent.of_links rfl
  · exact hsent.of_links rfl

theorem received (h : c.LinksSound) (hear : Listener) (k : Nat) (bytes : List UInt8) :
    (c.received hear k bytes).LinksSound := by
  obtain ⟨c', _, hlinks, heq | heq⟩ := received_cases hear c k bytes
  · rw [heq]
    exact h.of_links hlinks
  · rw [heq]
    exact (h.of_links hlinks).closeSession k

theorem sessionStep {hear : Listener} {c' : Client} {k : Nat} (h : c.LinksSound)
    (hstep : SessionStep hear c k c') : c'.LinksSound := by
  by_cases hk : c.session = some k
  · cases hstep with
    | ignored => exact h
    | closed warnings =>
      refine LinksSound.closeSession ?_ k
      exact h.of_links rfl
    | ended hs hphase => exact h.finish fun _ => h.writer_none_of_phase hk hs hphase
    | begun hs hphase =>
      have hw := h.writer_none_of_phase hk hs (by simp [hphase])
      refine LinksSound.setPhase ?_ (by simp) (fun _ => hw) (Or.inl hk)
      exact h.of_links rfl
    | opened hs hphase o =>
      exact h.opened hk (h.writer_none_of_phase hk hs (by simp [hphase])) o
    | received _ _ _ bytes => exact h.received hear k bytes
  · rcases hstep.of_left h hk with rfl | ⟨added, warnings, hadded, rfl⟩
    · exact h
    · refine LinksSound.finish ?_ fun hk' => absurd hk' hk
      exact (h.addClosed hadded).of_links rfl

end LinksSound

theorem kept_linksSound : Kept LinksSound where
  quiet := fun h _ hlinks => h.of_links hlinks
  cancelTimer := fun c h => h.of_links c.cancelTimer_links
  fired := fun _ _ _ _ _ h => h.of_links rfl
  scheduled := fun c now d h => h.of_links (c.scheduleReconnect_links now d)
  disconnect := fun _ h => h.disconnect
  connect := fun _ d h => h.connect d
  session := fun hstep h => h.sessionStep hstep

theorem linksSound_ofRegistry (settings : ClientSettings) (registry : Registry) (nesting : Nat) :
    (ofRegistry settings registry nesting).LinksSound := by
  constructor <;> simp [ofRegistry]

/-! Connections are never lost from sight. -/

theorem length_connections_of_links {c c' : Client} (h : c'.links = c.links) :
    c'.connections.length = c.connections.length :=
  congrArg (fun l => l.2.2.2.2.2.length) h

theorem disconnect_connections_length (c : Client) :
    c.disconnect.connections.length = c.connections.length := by
  unfold disconnect
  split <;> exact forget_connections_length _

theorem closeSession_connections_length (c : Client) (k : Nat) :
    (c.closeSession k).connections.length = c.connections.length := by
  unfold closeSession
  split
  · exact c.forget_connections_length
  · rfl

theorem opened_connections_length (c : Client) (k : Nat) (o : Opening) :
    (c.opened k o).connections.length = c.connections.length + 1 := by
  simp only [opened]
  split
  · split
    · simp [closeSession_connections_length, warn, addConnection]
    · simp [closeSession_connections_length, warn, send, addConnection]
    · simp [setPhase, send, addConnection]
  · simp [finish, setPhase, closeConnection, addConnection]

theorem SessionStep.connections_length {hear : Listener} {c c' : Client} {k : Nat}
    (hstep : SessionStep hear c k c') : c.connections.length ≤ c'.connections.length := by
  cases hstep with
  | ignored => exact Nat.le_refl _
  | closed warnings => exact Nat.le_of_eq (by rw [closeSession_connections_length])
  | ended => exact Nat.le_refl _
  | begun => exact Nat.le_refl _
  | opened _ _ o => exact Nat.le_of_lt (by rw [opened_connections_length]; omega)
  | received _ _ _ bytes =>
    obtain ⟨c', _, hlinks, heq | heq⟩ := received_cases hear c k bytes
    · exact Nat.le_of_eq (by rw [heq, length_connections_of_links hlinks])
    · refine Nat.le_of_eq ?_
      rw [heq, closeSession_connections_length, length_connections_of_links hlinks]

theorem kept_connections (n : Nat) : Kept fun c => n ≤ c.connections.length where
  quiet := by
    intro c c' h _ hlinks
    rwa [length_connections_of_links hlinks]
  cancelTimer := by
    intro c h
    rwa [length_connections_of_links c.cancelTimer_links]
  fired := fun _ _ _ _ _ h => h
  scheduled := by
    intro c now d h
    rwa [length_connections_of_links (c.scheduleReconnect_links now d)]
  disconnect := by
    intro c h
    rwa [disconnect_connections_length]
  connect := by
    intro c d h
    change n ≤ c.cancelTimer.disconnect.connections.length
    rwa [disconnect_connections_length, length_connections_of_links c.cancelTimer_links]
  session := fun hstep h => Nat.le_trans h hstep.connections_length

/-! After any run. -/

/-- A client is disconnected exactly while it has no session and no engine, and connected exactly
while it has something to write to. Of all connections that its sessions were ever given, only that
one is not closed, and of all timers only the one it waits for can still fire. Whatever happens to a
session that has been replaced changes nothing but that session and the warnings, and the
connections of that session are closed. -/
theorem run_one_live_link (settings : ClientSettings) (registry : Registry) (nesting : Nat)
    (events : List ClientEvent) :
    let c := (ofRegistry settings registry nesting).run events
    (c.state = .disconnected ↔ c.session = none) ∧
      (c.session = none ↔ c.descriptor = none) ∧
      (c.writer.isSome ↔ c.state = .connected) ∧
      (∀ w, c.writer = some w ↔ ∃ n, c.connections[w]? = some n ∧ n.closes = 0) ∧
      (∀ k, c.timer = some k ↔ ∃ t, c.timers[k]? = some t ∧ t.status = .pending) ∧
      (∀ later, c.connections.length ≤ (c.run later).connections.length ∧
        c.timers.length ≤ (c.run later).timers.length) ∧
      ∀ hear k e, c.session ≠ some k →
        ∃ sessions added warnings,
          c.sessionEvent hear k e =
            { c with sessions, connections := c.connections ++ added, warnings } ∧
          (∀ j, j ≠ k → sessions[j]? = c.sessions[j]?) ∧
          (∀ n ∈ added, 0 < n.closes) ∧
          ∀ s w, c.sessions[k]? = some s → s.phase = .reading w →
            ∃ n, c.connections[w]? = some n ∧ 0 < n.closes := by
  intro c
  have hlinks : c.LinksSound :=
    kept_linksSound.run (linksSound_ofRegistry settings registry nesting) events
  have htimers : c.TimersSound :=
    kept_timersSound.run (timersSound_ofRegistry settings registry nesting) events
  refine ⟨hlinks.state, hlinks.descriptor.symm, hlinks.writer, hlinks.writer_eq_some_iff, htimers,
    ?_, ?_⟩
  · intro later
    exact ⟨(kept_connections _).run (Nat.le_refl _) later,
      (kept_timers _).run (Nat.le_refl _) later⟩
  · intro hear k e hk
    have hown : ∀ s w, c.sessions[k]? = some s → s.phase = .reading w →
        ∃ n, c.connections[w]? = some n ∧ 0 < n.closes :=
      fun s w hs hw => hlinks.closed_of_left hk hs hw
    rcases (sessionStep_sessionEvent hear c k e).of_left hlinks hk with
      heq | ⟨added, warnings, hadded, heq⟩
    · exact ⟨c.sessions, [], c.warnings, by simp [heq], fun _ _ => rfl, by simp, hown⟩
    · refine ⟨_, added, warnings, heq, ?_, hadded, hown⟩
      intro j hj
      exact List.getElem?_modify_ne _ _ (Ne.symm hj)

/-- A session that reads is replaced, and the engine then sends it something. -/
theorem run_one_live_link_replaced :
    let events : List ClientEvent :=
      [.connect ⟨4000, 1⟩, .session (fun _ => none) 0 .begun,
        .session (fun _ => none) 0 (.openingEnded .opened), .connect ⟨4001, 2⟩]
    let c := (ofRegistry default default).run events
    c.session ≠ some 0 ∧ c.sessions[0]? = some ⟨⟨4000, 1⟩, .reading 0, true⟩ ∧
      ∃ sessions added warnings,
        c.sessionEvent (fun _ => none) 0 (.received [10]) =
          { c with sessions, connections := c.connections ++ added, warnings } ∧
        ∃ n, c.connections[0]? = some n ∧ 0 < n.closes := by
  intro events c
  have hleft : c.session ≠ some 0 := by decide
  have hreading : c.sessions[0]? = some ⟨⟨4000, 1⟩, .reading 0, true⟩ := by decide
  obtain ⟨_, _, _, _, _, _, hreplaced⟩ := run_one_live_link default default Data.usualRoom events
  obtain ⟨sessions, added, warnings, heq, _, _, hown⟩ :=
    hreplaced (fun _ => none) 0 (.received [10]) hleft
  exact ⟨hleft, hreading, sessions, added, warnings, heq, hown _ 0 hreading rfl⟩

end PatternServer.Engine.Client
