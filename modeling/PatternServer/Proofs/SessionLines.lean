import PatternServer.Proofs.ClientLinks
import PatternServer.Proofs.LineFraming

/-!
# What a session reads

While a session is the client's, the client hands on the lines of exactly the bytes that this
session has received, however they were cut into pieces and whatever else happened in between. What
earlier sessions left unfinished is gone: a client that has nothing to write to has an empty buffer
and a decoder without a character in hand.
-/

namespace PatternServer.Engine

set_option autoImplicit false

open PatternServer.Text PatternServer.Vocabulary

/-- The bytes that an event brings to a session. -/
def ClientEvent.bytesFor (k : Nat) : ClientEvent → List UInt8
  | .session _ j (.received bytes) => if j = k then bytes else []
  | _ => []

/-- All bytes that events bring to a session. -/
def bytesReceived (k : Nat) (events : List ClientEvent) : List UInt8 :=
  events.flatMap (ClientEvent.bytesFor k)

namespace Client

/-- The lines that are handed on at an event: only a session that reads and has not been asked to
stop hands on any. -/
def linesOf (c : Client) : ClientEvent → List (List Char)
  | .session hear j (.received bytes) =>
    match c.sessions[j]? with
    | some ⟨_, .reading _, false⟩ => c.bytesHandedOn hear bytes
    | _ => []
  | _ => []

/-- The lines that are handed on along a run. -/
def linesRead (c : Client) : List ClientEvent → List (List Char)
  | [] => []
  | e :: events => c.linesOf e ++ (c.step e).linesRead events

/-! Sessions that are not the client's. -/

theorem session_sessions_of_links {c c' : Client} (h : c'.links = c.links) :
    c'.session = c.session ∧ c'.sessions = c.sessions := by
  simp only [links, Prod.mk.injEq] at h
  exact ⟨h.2.2.1, h.2.2.2.2.1⟩

theorem closeSession_session (c : Client) (k : Nat) : (c.closeSession k).session ≠ some k := by
  unfold closeSession
  split
  · exact fun h => by cases h
  · assumption

theorem disconnect_sessions_length (c : Client) :
    c.disconnect.sessions.length = c.sessions.length := by
  have hforget : ∀ c : Client, c.forget.sessions = c.sessions := dropWriter_sessions
  unfold disconnect
  split
  · rw [hforget]
  · rw [hforget]
    exact List.length_modify _ _ _

/-- A new session is none of those that were there before. -/
theorem connect_session (c : Client) (d : Descriptor) {k : Nat} (hk : k < c.sessions.length) :
    (c.connect d).session ≠ some k := by
  have hlength : c.cancelTimer.disconnect.sessions.length = c.sessions.length := by
    rw [disconnect_sessions_length, (session_sessions_of_links c.cancelTimer_links).2]
  intro h
  have hnew : c.cancelTimer.disconnect.sessions.length = k := Option.some.inj h
  omega

/-- The client's own session has not been asked to stop. -/
def OwnSessionLive (c : Client) : Prop :=
  ∀ k s, c.session = some k → c.sessions[k]? = some s → s.cancelled = false

namespace OwnSessionLive

variable {c : Client}

theorem of_links {c' : Client} (h : c.OwnSessionLive) (heq : c'.links = c.links) :
    c'.OwnSessionLive := by
  obtain ⟨hsession, hsessions⟩ := session_sessions_of_links heq
  unfold OwnSessionLive
  rw [hsession, hsessions]
  exact h

theorem of_session (h : c.session = none) : c.OwnSessionLive := by
  intro k s hk
  cases h.symm.trans hk

theorem setPhase (h : c.OwnSessionLive) (k : Nat) (p : Phase) :
    (c.setPhase k p).OwnSessionLive := by
  intro j s hj hs
  rcases getElem?_modify_cases hs with ⟨rfl, t, ht, rfl⟩ | ⟨_, hs⟩
  · exact h j t hj ht
  · exact h j s hj hs

theorem closeSession (h : c.OwnSessionLive) (k : Nat) : (c.closeSession k).OwnSessionLive := by
  unfold Client.closeSession
  refine OwnSessionLive.setPhase ?_ k .finished
  split
  · exact of_session rfl
  · exact h

theorem opened (h : c.OwnSessionLive) (k : Nat) (o : Opening) : (c.opened k o).OwnSessionLive := by
  simp only [Client.opened]
  split
  · split
    · refine closeSession ?_ k
      exact h
    · refine closeSession ?_ k
      exact h
    · exact setPhase h k _
  · exact setPhase h k _

theorem sessionStep {hear : Listener} {c' : Client} {k : Nat} (h : c.OwnSessionLive)
    (hstep : SessionStep hear c k c') : c'.OwnSessionLive := by
  cases hstep with
  | ignored => exact h
  | closed warnings =>
    refine closeSession ?_ k
    exact h
  | ended => exact h.setPhase k .finished
  | begun => exact setPhase h k .opening
  | opened _ _ o => exact h.opened k o
  | received _ _ _ bytes =>
    obtain ⟨c', _, hlinks, heq | heq⟩ := received_cases hear c k bytes
    · rw [heq]
      exact h.of_links hlinks
    · rw [heq]
      exact (h.of_links hlinks).closeSession k

theorem connect (c : Client) (d : Descriptor) : (c.connect d).OwnSessionLive := by
  intro k s hk hs
  rcases getElem?_snoc_cases hs with hs | ⟨_, rfl⟩
  · have hlt := (List.getElem?_eq_some_iff.mp hs).1
    have hnew : c.cancelTimer.disconnect.sessions.length = k := Option.some.inj hk
    omega
  · rfl

end OwnSessionLive

theorem kept_ownSessionLive : Kept OwnSessionLive where
  quiet := fun h _ hlinks => h.of_links hlinks
  cancelTimer := fun c h => h.of_links c.cancelTimer_links
  fired := fun _ _ _ _ _ h => h
  scheduled := fun c now d h => h.of_links (c.scheduleReconnect_links now d)
  disconnect := fun c _ => .of_session c.disconnect_session
  connect := fun c d _ => .connect c d
  session := fun hstep h => h.sessionStep hstep

theorem ownSessionLive_ofRegistry (settings : ClientSettings) (registry : Registry)
    (nesting : Nat) :
    (ofRegistry settings registry nesting).OwnSessionLive :=
  .of_session rfl

/-! A client with nothing to write to has nothing half read. -/

/-- The buffer holds no line that has ended, and while there is no connection, nothing at all. -/
structure Rested (c : Client) : Prop where
  empty : c.writer = none → c.buffer = [] ∧ c.decoder = .ground
  free : '\n' ∉ c.buffer

namespace Rested

variable {c : Client}

theorem forget (c : Client) : c.forget.Rested :=
  ⟨fun _ => ⟨rfl, rfl⟩, List.not_mem_nil⟩

theorem disconnect (c : Client) : c.disconnect.Rested := by
  unfold Client.disconnect
  split <;> exact forget _

theorem connect (c : Client) (d : Descriptor) : (c.connect d).Rested := by
  have h := disconnect c.cancelTimer
  exact ⟨h.empty, h.free⟩

theorem cancelTimer (h : c.Rested) : c.cancelTimer.Rested := by
  unfold Client.cancelTimer
  split
  · exact h
  · exact ⟨h.empty, h.free⟩

theorem closeSession_own {k : Nat} (hk : c.session = some k) : (c.closeSession k).Rested := by
  rw [Client.closeSession, if_pos hk]
  exact ⟨(forget c).empty, (forget c).free⟩

theorem closeSession (h : c.Rested) (k : Nat) : (c.closeSession k).Rested := by
  by_cases hk : c.session = some k
  · exact closeSession_own hk
  · rw [Client.closeSession, if_neg hk]
    exact ⟨h.empty, h.free⟩

theorem opened (h : c.Rested) (k : Nat) (o : Opening) : (c.opened k o).Rested := by
  have hattached : ∀ {c' : Client}, c'.buffer = c.buffer → c'.writer ≠ none → c'.Rested := by
    intro c' hbuffer hwriter
    exact ⟨fun hnone => absurd hnone hwriter, hbuffer ▸ h.free⟩
  simp only [Client.opened]
  split
  · split
    · refine closeSession ?_ k
      exact hattached rfl (Option.some_ne_none _)
    · refine closeSession ?_ k
      exact hattached rfl (Option.some_ne_none _)
    · exact hattached rfl (Option.some_ne_none _)
  · exact ⟨h.empty, h.free⟩

/-- What a session of the client receives. Lines that are complete leave the buffer, and if one of
them fails, the session ends. -/
theorem received (hear : Listener) {k : Nat} (hk : c.session = some k) (hw : c.writer ≠ none)
    (bytes : List UInt8) : (c.received hear k bytes).Rested := by
  obtain ⟨registry, announced, buffer, decoder, hfeed⟩ := feedBytes_frame hear c bytes
  obtain ⟨lines, last, hlines⟩ :=
    Lines.exists_lines (c.buffer ++ (Utf8.decodePiece c.decoder bytes).1)
  rcases c.received_eq hear k bytes with ⟨hnone, heq⟩ | ⟨_, warnings, heq⟩ <;> rw [heq]
  · rw [(feedBytes_eq hlines hnone).1]
    exact ⟨fun hwriter => absurd hwriter hw, hlines.last_free⟩
  · refine closeSession_own ?_
    rw [hfeed]
    exact hk

theorem sessionStep {hear : Listener} {c' : Client} {k : Nat} (h : c.Rested)
    (hlinks : c.LinksSound) (hstep : SessionStep hear c k c') : c'.Rested := by
  cases hstep with
  | ignored => exact h
  | closed warnings =>
    refine closeSession ?_ k
    exact ⟨h.empty, h.free⟩
  | ended => exact ⟨h.empty, h.free⟩
  | begun => exact ⟨h.empty, h.free⟩
  | opened _ _ o => exact h.opened k o
  | received hs hphase hcancelled bytes =>
    have hk : c.session = some k := by
      refine Decidable.byContradiction fun hk => ?_
      cases hcancelled.symm.trans (hlinks.cancelled_of_left hk hs (by simp [hphase]))
    have hw := ((hlinks.reading k _ _ hs hphase).2).mpr hk
    exact received hear hk (by rw [hw]; exact Option.some_ne_none _) bytes

/-- The links are needed to know whose session receives something. -/
theorem preserved : Preserved fun c => c.LinksSound ∧ c.Rested where
  watched := fun _ _ _ _ _ h => ⟨h.1.of_links rfl, h.2.empty, h.2.free⟩
  cancelTimer := fun c h => ⟨kept_linksSound.cancelTimer c h.1, h.2.cancelTimer⟩
  fired := fun _ _ _ _ _ h => ⟨h.1.of_links rfl, h.2.empty, h.2.free⟩
  scheduled := fun c now d h =>
    ⟨kept_linksSound.scheduled c now d h.1, h.2.cancelTimer.empty, h.2.cancelTimer.free⟩
  disconnect := fun c h => ⟨h.1.disconnect, disconnect c⟩
  connect := fun c d h => ⟨h.1.connect d, connect c d⟩
  session := fun hstep h => ⟨h.1.sessionStep hstep, h.2.sessionStep h.1 hstep⟩

end Rested

theorem rested_ofRegistry (settings : ClientSettings) (registry : Registry) (nesting : Nat) :
    (ofRegistry settings registry nesting).Rested :=
  ⟨fun _ => ⟨rfl, rfl⟩, List.not_mem_nil⟩

/-! A session that the client has left does not come back. -/

theorem SessionStep.session {hear : Listener} {c c' : Client} {k : Nat}
    (hstep : SessionStep hear c k c') :
    (c'.session = c.session ∨ c'.session = none) ∧ c'.sessions.length = c.sessions.length := by
  have hclose : ∀ c' : Client, c'.session = c.session →
      c'.sessions.length = c.sessions.length →
      ((c'.closeSession k).session = c.session ∨ (c'.closeSession k).session = none) ∧
        (c'.closeSession k).sessions.length = c.sessions.length := by
    intro c' hsession hlength
    rw [← hlength, ← hsession]
    unfold closeSession
    split
    · refine ⟨Or.inr rfl, ?_⟩
      exact (List.length_modify _ _ _).trans (congrArg List.length c'.dropWriter_sessions)
    · exact ⟨Or.inl rfl, List.length_modify _ _ _⟩
  cases hstep with
  | ignored => exact ⟨Or.inl rfl, rfl⟩
  | closed warnings => exact hclose _ rfl rfl
  | ended => exact ⟨Or.inl rfl, List.length_modify _ _ _⟩
  | begun => exact ⟨Or.inl rfl, List.length_modify _ _ _⟩
  | opened _ _ o =>
    simp only [Client.opened]
    split
    · split
      · exact hclose _ rfl rfl
      · exact hclose _ rfl rfl
      · exact ⟨Or.inl rfl, List.length_modify _ _ _⟩
    · exact ⟨Or.inl rfl, List.length_modify _ _ _⟩
  | received _ _ _ bytes =>
    obtain ⟨c', _, hlinks, heq⟩ := received_cases hear c k bytes
    obtain ⟨hsession, hsessions⟩ := session_sessions_of_links hlinks
    rcases heq with heq | heq <;> rw [heq]
    · exact ⟨Or.inl hsession, congrArg List.length hsessions⟩
    · exact hclose c' hsession (congrArg List.length hsessions)

theorem kept_sessions (n : Nat) : Kept fun c => n ≤ c.sessions.length where
  quiet := by
    intro c c' h _ hlinks
    rwa [(session_sessions_of_links hlinks).2]
  cancelTimer := by
    intro c h
    rwa [(session_sessions_of_links c.cancelTimer_links).2]
  fired := fun _ _ _ _ _ h => h
  scheduled := by
    intro c now d h
    rwa [(session_sessions_of_links (c.scheduleReconnect_links now d)).2]
  disconnect := by
    intro c h
    rwa [disconnect_sessions_length]
  connect := by
    intro c d h
    have hlength : (c.connect d).sessions.length = c.sessions.length + 1 := by
      change (c.cancelTimer.disconnect.sessions ++ _).length = _
      rw [List.length_append, disconnect_sessions_length,
        (session_sessions_of_links c.cancelTimer_links).2]
      rfl
    omega
  session := by
    intro hear c k c' hstep h
    rwa [hstep.session.2]

/-- A session that is not the client's never becomes the client's again. -/
theorem kept_left (k : Nat) : Kept fun c => k < c.sessions.length ∧ c.session ≠ some k where
  quiet := by
    intro c c' h htiming hlinks
    refine ⟨(kept_sessions (k + 1)).quiet h.1 htiming hlinks, ?_⟩
    rw [(session_sessions_of_links hlinks).1]
    exact h.2
  cancelTimer := by
    intro c h
    refine ⟨(kept_sessions (k + 1)).cancelTimer c h.1, ?_⟩
    rw [(session_sessions_of_links c.cancelTimer_links).1]
    exact h.2
  fired := fun _ _ _ _ _ h => h
  scheduled := by
    intro c now d h
    refine ⟨(kept_sessions (k + 1)).scheduled c now d h.1, ?_⟩
    rw [(session_sessions_of_links (c.scheduleReconnect_links now d)).1]
    exact h.2
  disconnect := by
    intro c h
    refine ⟨(kept_sessions (k + 1)).disconnect c h.1, ?_⟩
    rw [disconnect_session]
    exact fun hnone => by cases hnone
  connect := fun c d h => ⟨(kept_sessions (k + 1)).connect c d h.1, c.connect_session d h.1⟩
  session := by
    intro hear c j c' hstep h
    refine ⟨(kept_sessions (k + 1)).session hstep h.1, ?_⟩
    rcases hstep.session.1 with heq | heq <;> rw [heq]
    · exact h.2
    · exact fun hnone => by cases hnone

/-! One step of a session that reads. -/

/-- The client's session reads. -/
structure Reads (c : Client) (k : Nat) : Prop where
  links : c.LinksSound
  own : c.session = some k
  reading : ∃ d w, c.sessions[k]? = some ⟨d, .reading w, false⟩

/-- What a client has taken in. -/
def intake (c : Client) :
    ClientSettings × Nat × Registry × List Registry × List Char × Utf8State :=
  (c.settings, c.nesting, c.registry, c.announced, c.buffer, c.decoder)

@[simp] theorem cancelTimer_intake (c : Client) : c.cancelTimer.intake = c.intake := by
  unfold cancelTimer
  split <;> rfl

/-- A session that is not the client's hands on no lines. -/
theorem LinksSound.linesOf_left {c : Client} (h : c.LinksSound) (hear : Listener) {j : Nat}
    (hj : c.session ≠ some j) (e : SessionEvent) : c.linesOf (.session hear j e) = [] := by
  cases e with
  | received bytes =>
    simp only [linesOf]
    split
    · rename_i hs
      cases h.cancelled_of_left hj hs (by simp)
    · rfl
  | _ => rfl

/-- What happens to a client that keeps its reading session: the session receives bytes that can be
handled to their end, or nothing is taken in. -/
theorem Reads.sessionEvent_cases {c : Client} {k : Nat} (h : c.Reads k) (hear : Listener) (j : Nat)
    (e : SessionEvent) (hown : (c.sessionEvent hear j e).session = some k) :
    (∃ bytes, j = k ∧ e = .received bytes ∧ (c.feedBytes hear bytes).2 = none ∧
        c.sessionEvent hear j e = (c.feedBytes hear bytes).1) ∨
      ((c.sessionEvent hear j e).intake = c.intake ∧
        (c.sessionEvent hear j e).sessions[k]? = c.sessions[k]? ∧
        c.linesOf (.session hear j e) = [] ∧
        (ClientEvent.session hear j e).bytesFor k = []) := by
  obtain ⟨d, w, hs⟩ := h.reading
  by_cases hjk : j = k
  · subst hjk
    have hgone : ∀ c' : Client, (c'.closeSession j).session ≠ some j :=
      fun c' => c'.closeSession_session j
    simp only [sessionEvent, hs] at hown ⊢
    cases e with
    | begun => exact Or.inr ⟨rfl, hs, rfl, rfl⟩
    | openingEnded o => exact Or.inr ⟨rfl, hs, rfl, rfl⟩
    | received bytes =>
      refine Or.inl ⟨bytes, trivial, rfl, ?_⟩
      simp only [react, Bool.false_eq_true, if_false] at hown ⊢
      rcases c.received_eq hear j bytes with hgoes | ⟨_, warnings, heq⟩
      · exact hgoes
      · rw [heq] at hown
        exact absurd hown (hgone _)
    | streamEnded => exact absurd hown (hgone c)
    | broken reason =>
      simp only [react, Bool.false_eq_true, if_false] at hown
      exact absurd hown (hgone _)
    | stopped => exact absurd hown (hgone c)
  · have hj : c.session ≠ some j := by
      rw [h.own]
      simpa using Ne.symm hjk
    have hbytes : (ClientEvent.session hear j e).bytesFor k = [] := by
      cases e with
      | received bytes => exact if_neg hjk
      | _ => rfl
    refine Or.inr ⟨?_, ?_, h.links.linesOf_left hear hj e, hbytes⟩
    all_goals
      rcases (sessionStep_sessionEvent hear c j e).of_left h.links hj with
        heq | ⟨added, warnings, _, heq⟩ <;> rw [heq]
    · rfl
    · exact List.getElem?_modify_ne _ _ hjk

/-- Operations take nothing in as long as they leave the client its session. -/
theorem operationsKeep_intake (c₀ : Client) (k : Nat) :
    OperationsKeep fun c => k < c.sessions.length ∧
      (c.session = some k → c.intake = c₀.intake ∧ c.sessions = c₀.sessions) where
  watched := fun _ _ _ _ _ h => h
  cancelTimer := by
    intro c h
    obtain ⟨hsession, hsessions⟩ := session_sessions_of_links c.cancelTimer_links
    rw [hsession, hsessions, cancelTimer_intake]
    exact h
  fired := fun _ _ _ _ _ h => h
  scheduled := by
    intro c now d h
    obtain ⟨hsession, hsessions⟩ := session_sessions_of_links (c.scheduleReconnect_links now d)
    have hintake : (c.scheduleReconnect now d).intake = c.intake := c.cancelTimer_intake
    rw [hsession, hsessions, hintake]
    exact h
  disconnect := by
    intro c h
    rw [disconnect_session, disconnect_sessions_length]
    exact ⟨h.1, fun hnone => by cases hnone⟩
  connect := fun c d h =>
    ⟨(kept_sessions (k + 1)).connect c d h.1, fun hown => absurd hown (c.connect_session d h.1)⟩

theorem Reads.step_cases {c : Client} {k : Nat} (h : c.Reads k) (e : ClientEvent)
    (hown : (c.step e).session = some k) :
    (∃ hear bytes, e = .session hear k (.received bytes) ∧ (c.feedBytes hear bytes).2 = none ∧
        c.step e = (c.feedBytes hear bytes).1) ∨
      ((c.step e).intake = c.intake ∧ (c.step e).sessions[k]? = c.sessions[k]? ∧
        c.linesOf e = [] ∧ e.bytesFor k = []) := by
  have hlt : k < c.sessions.length := h.links.current k h.own
  cases e with
  | session hear j e =>
    rcases h.sessionEvent_cases hear j e hown with ⟨bytes, rfl, rfl, hnone, heq⟩ | hquiet
    · exact Or.inl ⟨hear, bytes, rfl, hnone, heq⟩
    · exact Or.inr hquiet
  | _ =>
    obtain ⟨hintake, hsessions⟩ :=
      ((operationsKeep_intake c k).step (by simp) ⟨hlt, fun _ => ⟨rfl, rfl⟩⟩).2 hown
    exact Or.inr ⟨hintake, by rw [hsessions], rfl, rfl⟩

theorem Reads.step {c : Client} {k : Nat} (h : c.Reads k) (e : ClientEvent)
    (hown : (c.step e).session = some k) : (c.step e).Reads k where
  links := kept_linksSound.step e h.links
  own := hown
  reading := by
    obtain ⟨d, w, hs⟩ := h.reading
    refine ⟨d, w, ?_⟩
    rcases h.step_cases e hown with ⟨hear, bytes, _, _, heq⟩ | ⟨_, hsessions, _⟩
    · obtain ⟨registry, announced, buffer, decoder, hfeed⟩ := feedBytes_frame hear c bytes
      rw [heq, hfeed]
      exact hs
    · rw [hsessions, hs]

/-! A session from its opening on. -/

/-- What a client has taken in once the lines of a stream have been handled and the rest is kept. -/
def intakeAfter (c : Client) (stream : List UInt8) (lines : List (List Char)) (last : List Char) :
    ClientSettings × Nat × Registry × List Registry × List Char × Utf8State :=
  ({ c.afterLines lines last with decoder := (Utf8.decodePiece .ground stream).2 } : Client).intake

theorem intakeAfter_nil (c : Client) :
    c.intakeAfter [] [] [] = (c.settings, c.nesting, c.registry, c.announced, [], .ground) := by
  simp [intakeAfter, intake, afterLines, toldOf, messages, registriesAfter]
  rfl

/-- The session of a client has received a stream since the client was `start`. -/
structure HasRead (start c : Client) (k : Nat) (stream : List UInt8) (read : List (List Char)) :
    Prop where
  reads : c.Reads k
  taken : ∃ lines last, Lines (Utf8.decodePiece .ground stream).1 lines last ∧
    c.intake = start.intakeAfter stream lines last ∧
    read = lines.filter fun line => !isAllBlank line

section Piece
variable {start c : Client} {stream bytes : List UInt8} {lines lines' : List (List Char)}
  {last last' : List Char}

/-- The lines of a stream and those that its next piece completes. -/
theorem lines_append_piece (hlines : Lines (Utf8.decodePiece .ground stream).1 lines last)
    (hlines' : Lines (last ++ (Utf8.decodePiece (Utf8.decodePiece .ground stream).2 bytes).1)
      lines' last') :
    Lines (Utf8.decodePiece .ground (stream ++ bytes)).1 (lines ++ lines') last' := by
  rw [Utf8.decodePiece_append]
  exact hlines.append hlines'

/-- The lines that a piece of a stream completes, in the client that has taken in what comes
before it. -/
theorem lines_piece (hintake : c.intake = start.intakeAfter stream lines last)
    (hlines' : Lines (last ++ (Utf8.decodePiece (Utf8.decodePiece .ground stream).2 bytes).1)
      lines' last') :
    Lines (c.buffer ++ (Utf8.decodePiece c.decoder bytes).1) lines' last' := by
  simp only [intake, intakeAfter, Prod.mk.injEq] at hintake
  obtain ⟨_, _, _, _, hbuffer, hdecoder⟩ := hintake
  rw [hbuffer, hdecoder]
  exact hlines'

/-- A piece that can be handled to its end goes on with the stream. -/
theorem intake_feedBytes {hear : Listener}
    (hintake : c.intake = start.intakeAfter stream lines last)
    (hlines' : Lines (last ++ (Utf8.decodePiece (Utf8.decodePiece .ground stream).2 bytes).1)
      lines' last')
    (hnone : (c.feedBytes hear bytes).2 = none) :
    (c.feedBytes hear bytes).1.intake =
        start.intakeAfter (stream ++ bytes) (lines ++ lines') last' ∧
      c.bytesHandedOn hear bytes = lines'.filter fun line => !isAllBlank line := by
  obtain ⟨heq, hhanded⟩ := feedBytes_eq (lines_piece hintake hlines') hnone
  refine ⟨?_, hhanded⟩
  rw [heq, intakeAfter, ← afterLines_afterLines start lines lines' last last',
    Utf8.decodePiece_append]
  simp only [intake, intakeAfter, Prod.mk.injEq] at hintake
  obtain ⟨hsettings, hnesting, hregistry, hannounced, _, hdecoder⟩ := hintake
  simp only [intake, afterLines, toldOf, hsettings, hnesting, hregistry, hannounced, hdecoder]
  rfl

/-- A piece can be handled to its end if none of the lines fails that it completes. -/
theorem feedBytes_piece {hear : Listener} (hintake : c.intake = start.intakeAfter stream lines last)
    (hlines' : Lines (last ++ (Utf8.decodePiece (Utf8.decodePiece .ground stream).2 bytes).1)
      lines' last')
    (hnone : NoneFails hear start.nesting start.settings.announces
      (registryAfter start.registry (messages start.nesting lines)) lines') :
    (c.feedBytes hear bytes).2 = none := by
  refine feedBytes_of_noneFails (lines_piece hintake hlines') ?_
  simp only [intake, intakeAfter, Prod.mk.injEq] at hintake
  obtain ⟨hsettings, hnesting, hregistry, _⟩ := hintake
  rw [hsettings, hnesting, hregistry]
  exact hnone

end Piece

theorem Reads.step_received {c : Client} {k : Nat} (h : c.Reads k) {hear : Listener}
    {bytes : List UInt8} (hnone : (c.feedBytes hear bytes).2 = none) :
    c.step (.session hear k (.received bytes)) = (c.feedBytes hear bytes).1 := by
  obtain ⟨d, w, hs⟩ := h.reading
  simp only [Client.step, sessionEvent, hs, react, Bool.false_eq_true, if_false]
  rcases c.received_eq hear k bytes with ⟨_, heq⟩ | ⟨hsome, _⟩
  · exact heq
  · exact absurd hnone hsome

namespace HasRead

variable {start c : Client} {k : Nat} {stream : List UInt8} {read : List (List Char)}

/-- One event: if the session stays the client's, its bytes have been added to the stream and their
lines to those that have been handed on. -/
theorem step (h : HasRead start c k stream read) (e : ClientEvent)
    (hown : (c.step e).session = some k) :
    HasRead start (c.step e) k (stream ++ e.bytesFor k) (read ++ c.linesOf e) := by
  refine ⟨h.reads.step e hown, ?_⟩
  obtain ⟨lines, last, hlines, hintake, rfl⟩ := h.taken
  rcases h.reads.step_cases e hown with ⟨hear, bytes, rfl, hnone, heq⟩ | ⟨hquiet, _, hread, hbytes⟩
  · obtain ⟨d, w, hs⟩ := h.reads.reading
    obtain ⟨lines', last', hlines'⟩ :=
      Lines.exists_lines (last ++ (Utf8.decodePiece (Utf8.decodePiece .ground stream).2 bytes).1)
    obtain ⟨htaken, hhanded⟩ := intake_feedBytes hintake hlines' hnone
    have hbytes : (ClientEvent.session hear k (.received bytes)).bytesFor k = bytes := if_pos rfl
    have hread : c.linesOf (.session hear k (.received bytes)) = c.bytesHandedOn hear bytes := by
      simp only [linesOf, hs]
    refine ⟨lines ++ lines', last', ?_, ?_, ?_⟩
    · rw [hbytes]
      exact lines_append_piece hlines hlines'
    · rw [heq, hbytes, htaken]
    · rw [hread, hhanded, List.filter_append]
  · rw [hbytes, hread, List.append_nil, List.append_nil, hquiet]
    exact ⟨lines, last, hlines, hintake, rfl⟩

/-- A whole run at whose end the session is still the client's. -/
theorem run (h : HasRead start c k stream read) (events : List ClientEvent)
    (hown : (c.run events).session = some k) :
    HasRead start (c.run events) k (stream ++ bytesReceived k events)
      (read ++ c.linesRead events) := by
  induction events generalizing c stream read with
  | nil =>
    simp only [bytesReceived, linesRead, List.flatMap_nil, List.append_nil]
    exact h
  | cons e events ih =>
    -- A session that the first event ended would not be the client's at the end.
    have hnext : (c.step e).session = some k := by
      refine Decidable.byContradiction fun hleft => ?_
      have hlt : k + 1 ≤ c.sessions.length := h.reads.links.current k h.reads.own
      have hstays := (kept_left k).run ⟨(kept_sessions (k + 1)).step e hlt, hleft⟩ events
      exact hstays.2 hown
    have hlater := ih (h.step e hnext) hown
    simp only [List.append_assoc] at hlater
    exact hlater

/-- The session stays the client's as long as no line of what it receives fails. -/
theorem run_received (h : HasRead start c k stream read) {hear : Listener}
    (chunks : List (List UInt8)) {lines : List (List Char)}
    (hlines : Framed (stream ++ chunks.flatten) lines)
    (hnone : NoneFails hear start.nesting start.settings.announces start.registry lines) :
    (c.run (chunks.map fun bytes => .session hear k (.received bytes))).session = some k := by
  induction chunks generalizing c stream read with
  | nil => exact h.reads.own
  | cons bytes chunks ih =>
    obtain ⟨early, last, hearly, hintake, _⟩ := h.taken
    obtain ⟨now, last', hnow⟩ :=
      Lines.exists_lines (last ++ (Utf8.decodePiece (Utf8.decodePiece .ground stream).2 bytes).1)
    obtain ⟨late, last'', hlate⟩ := Lines.exists_lines (last' ++
      (Utf8.decodePiece (Utf8.decodePiece .ground (stream ++ bytes)).2 chunks.flatten).1)
    rw [List.flatten_cons, ← List.append_assoc] at hlines
    have hwhole : Framed (stream ++ bytes ++ chunks.flatten) (early ++ now ++ late) :=
      framed_iff.mpr ⟨last'', lines_append_piece (lines_append_piece hearly hnow) hlate⟩
    have hfed : (c.feedBytes hear bytes).2 = none := by
      rw [hlines.unique hwhole, noneFails_append, noneFails_append] at hnone
      exact feedBytes_piece hintake hnow hnone.1.2
    have hown : (c.step (.session hear k (.received bytes))).session = some k := by
      obtain ⟨registry, announced, buffer, decoder, hfeed⟩ := feedBytes_frame hear c bytes
      rw [h.reads.step_received hfed, hfeed]
      exact h.reads.own
    have hbytes : (ClientEvent.session hear k (.received bytes)).bytesFor k = bytes := if_pos rfl
    refine ih (h.step _ hown) ?_
    rw [hbytes]
    exact hlines

end HasRead

/-- A session whose connection has opened begins with nothing read, whatever the client had taken in
before. -/
theorem hasRead_opened {c : Client} (hlinks : c.LinksSound) (hlive : c.OwnSessionLive)
    (hrested : c.Rested) (hear : Listener) {k : Nat} {s : Session} (hk : c.session = some k)
    (hs : c.sessions[k]? = some s) (hphase : s.phase = .opening) :
    HasRead c (c.step (.session hear k (.openingEnded .opened))) k [] [] := by
  have hcancelled := hlive k s hk hs
  have hwriter := hlinks.writer_none_of_phase hk hs (by simp [hphase])
  obtain ⟨hbuffer, hdecoder⟩ := hrested.empty hwriter
  have hstep : c.step (.session hear k (.openingEnded .opened)) = c.opened k .opened := by
    simp only [step, sessionEvent, hs, react, hphase, openingEnded]
  have hsession : c.addConnection.session = some k := hk
  refine ⟨⟨kept_linksSound.step _ hlinks, ?_, ?_⟩, [], [], ?_, ?_, rfl⟩
  · rw [hstep, opened, if_pos hsession]
    exact hk
  · refine ⟨s.descriptor, c.connections.length, ?_⟩
    rw [hstep, opened, if_pos hsession]
    simp only [setPhase, send, addConnection, List.getElem?_modify_eq, hs, Option.map_eq_map,
      Option.map_some, hcancelled]
  · exact ⟨rfl, by simp, by simp⟩
  · rw [hstep, opened, if_pos hsession, intakeAfter_nil]
    simp only [intake, setPhase, send, addConnection, hbuffer, hdecoder]

/-- From the moment its connection opens, and as long as it is the client's, a session hands on
exactly the lines of the text that the bytes it has received stand for, those apart that are blank.
This text has one division into lines. How the bytes are cut into pieces, what happens to the client
in between and what came before play no part. The registry and what is told of it follow from the
messages among the lines, no line that has ended is left in the buffer, and the session does stay
the client's if no line fails. -/
theorem run_lines_of_stream (settings : ClientSettings) (registry : Registry) (nesting : Nat)
    (before : List ClientEvent) (listener : Listener) (k : Nat) (s : Session) :
    let c := (ofRegistry settings registry nesting).run before
    let opened := c.step (.session listener k (.openingEnded .opened))
    c.session = some k → c.sessions[k]? = some s → s.phase = .opening →
      (∀ stream, ∃! lines, Framed stream lines) ∧
      (∀ events, '\n' ∉ (opened.run events).buffer) ∧
      (∀ events lines, (opened.run events).session = some k →
        Framed (bytesReceived k events) lines →
          opened.linesRead events = lines.filter (fun line => !isAllBlank line) ∧
          (opened.run events).registry = registryAfter c.registry (messages nesting lines) ∧
          (opened.run events).announced =
            c.announced ++ c.toldOf (registriesAfter c.registry (messages nesting lines))) ∧
      ∀ (hear : Listener) (chunks : List (List UInt8)) (lines : List (List Char)),
        Framed chunks.flatten lines →
          NoneFails hear nesting c.settings.announces c.registry lines →
          (opened.run (chunks.map fun bytes => .session hear k (.received bytes))).session =
            some k := by
  intro c opened hk hs hphase
  have hlive : c.OwnSessionLive :=
    kept_ownSessionLive.run (ownSessionLive_ofRegistry settings registry nesting) before
  have hrested : c.LinksSound ∧ c.Rested :=
    Rested.preserved.run
      ⟨linksSound_ofRegistry settings registry nesting,
        rested_ofRegistry settings registry nesting⟩ before
  have hnesting : c.nesting = nesting := (preserved_nesting nesting).run rfl before
  have hopened : HasRead c opened k [] [] :=
    hasRead_opened hrested.1 hlive hrested.2 listener hk hs hphase
  refine ⟨existsUnique_framed, ?_, ?_, ?_⟩
  · intro events
    exact (Rested.preserved.run (Rested.preserved.step _ hrested) events).2.free
  · intro events lines hown hframed
    obtain ⟨_, lines', last, hlines, hintake, hread⟩ := hopened.run events hown
    obtain rfl : lines = lines' := hframed.unique (framed_iff.mpr ⟨last, hlines⟩)
    simp only [intake, intakeAfter, afterLines, hnesting, Prod.mk.injEq] at hintake
    exact ⟨hread, hintake.2.2.1, hintake.2.2.2.1⟩
  · intro hear chunks lines hframed hnone
    exact hopened.run_received chunks hframed (hnesting.symm ▸ hnone)

/-- The first session breaks off within a line and within a character, and the second receives a
line that is cut within a character. -/
theorem run_lines_of_stream_second :
    let hear : Listener := fun _ => none
    let c := (ofRegistry ⟨"localhost", default, default, true⟩ default).run
      [.connect ⟨4000, 1⟩, .session hear 0 .begun, .session hear 0 (.openingEnded .opened),
        .session hear 0 (.received [0x7B, 0xC3]), .connect ⟨4001, 2⟩, .session hear 1 .begun]
    let opened := c.step (.session hear 1 (.openingEnded .opened))
    let line := "\x7b\"type\":\"banks\",\"banks\":[\"é\"]\x7d".toList
    let bytes := (line ++ ['\n']).flatMap String.utf8EncodeChar
    let events := [bytes.take 27, bytes.drop 27].map fun bytes =>
      ClientEvent.session hear 1 (.received bytes)
    c.session = some 1 ∧ c.sessions[1]? = some ⟨⟨4001, 2⟩, .opening, false⟩ ∧
      opened.linesRead events = [line] ∧
      (opened.run events).announced = [Message.apply ⟨.banks, ["é"]⟩ default] := by
  intro hear c opened line bytes events
  have hk : c.session = some 1 := by decide +kernel
  have hs : c.sessions[1]? = some ⟨⟨4001, 2⟩, .opening, false⟩ := by decide +kernel
  have hframed : Framed [bytes.take 27, bytes.drop 27].flatten [line] :=
    framed_iff.mpr ⟨[], by decide +kernel, by decide +kernel, by decide +kernel⟩
  have hline : Message.ofLine? Data.usualRoom line = .ok (some ⟨.banks, ["é"]⟩) := by decide +kernel
  obtain ⟨_, _, hread, hstays⟩ := run_lines_of_stream ⟨"localhost", default, default, true⟩ default
    _ _ hear 1 _ hk hs rfl
  have hown := hstays hear _ [line] hframed (by simp [NoneFails, hline, hear])
  obtain ⟨hlines, _, hannounced⟩ := hread events [line] hown hframed
  refine ⟨hk, hs, ?_, ?_⟩
  · rw [hlines]
    decide +kernel
  · have hmessages : messages Data.usualRoom [line] = [⟨.banks, ["é"]⟩] := by
      simp [messages, hline, Except.toOption]
    rw [hannounced, hmessages]
    decide +kernel

end Client

end PatternServer.Engine
