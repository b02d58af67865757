import PatternServer.Proofs.JsonLimits
import PatternServer.Proofs.LostSessions
import PatternServer.Proofs.ReportedVocabulary

/-!
# Lines that end a session

A line is taken as a message or ignored, and the session goes on. Two kinds of line fail: one that
the reader gives up for a limit, and a message whose listener has trouble with it. These and nothing
else in what an engine sends end a session; apart from them it ends with its stream, with its
connection, or when it is asked to stop.
-/

namespace PatternServer.Engine

set_option autoImplicit false

open PatternServer.Data PatternServer.Text PatternServer.Vocabulary

/-- How a line fails while the registry is `r`. -/
inductive LineFault (hear : Listener) (nesting : Nat) (announces : Bool) (r : Registry)
    (line : List Char) : FeedError → Prop where
  | unreadable {e : JsonError} (hread : Json.read (Json.loose nesting) line = .error e)
      (hlimit : e ≠ .malformed) : LineFault hear nesting announces r line (.line e)
  | unheard {topic : Topic} {names : List String} {t : Trouble}
      (hmessage : IsMessage nesting line topic names) (hannounces : announces = true)
      (hheard : hear (Message.apply ⟨topic, names⟩ r) = some t) :
      LineFault hear nesting announces r line (.listener t)

theorem ofLine?_eq_error_iff {nesting : Nat} {line : List Char} {e : JsonError} :
    Message.ofLine? nesting line = .error e ↔
      Json.read (Json.loose nesting) line = .error e ∧ e ≠ .malformed := by
  unfold Message.ofLine?
  split
  · rename_i hblank
    rw [read_of_isAllBlank hblank]
    constructor
    · intro h
      cases h
    · rintro ⟨heq, hne⟩
      cases heq
      exact absurd rfl hne
  · cases Json.read (Json.loose nesting) line with
    | ok v => cases v <;> simp
    | error e' => cases e' <;> cases e <;> simp

theorem LineFault.beyond_limit {hear : Listener} {nesting : Nat} {announces : Bool}
    {r : Registry} {line : List Char} {e : JsonError}
    (h : LineFault hear nesting announces r line (.line e)) :
    Json.LongDigits line ∨ nesting < Json.openings line := by
  cases h with
  | unreadable hread hlimit =>
    rcases Json.read_loose_error hread with hmalformed | ⟨_, hlong⟩ | ⟨_, hdeep⟩
    · exact absurd hmalformed hlimit
    · exact Or.inl hlong
    · exact Or.inr hdeep

namespace Client

theorem handleLine_eq_some_iff (hear : Listener) (c : Client) (line : List Char) (e : FeedError) :
    (c.handleLine hear line).2 = some e ↔
      LineFault hear c.nesting c.settings.announces c.registry line e := by
  unfold handleLine
  cases hline : Message.ofLine? c.nesting line with
  | error e' =>
    obtain ⟨hread, hlimit⟩ := ofLine?_eq_error_iff.mp hline
    constructor
    · intro h
      cases h
      exact .unreadable hread hlimit
    · intro h
      cases h with
      | unreadable hread' _ =>
        cases hread.symm.trans hread'
        rfl
      | unheard hmessage _ _ => cases hline.symm.trans (ofLine?_eq_some_iff.mpr hmessage)
  | ok found =>
    have hreadable : ∀ e', Json.read (Json.loose c.nesting) line = .error e' → e' = .malformed := by
      intro e' hread
      apply Decidable.byContradiction
      intro hlimit
      cases hline.symm.trans (ofLine?_eq_error_iff.mpr ⟨hread, hlimit⟩)
    cases found with
    | none =>
      constructor
      · intro h
        cases h
      · intro h
        cases h with
        | unreadable hread hlimit => exact absurd (hreadable _ hread) hlimit
        | unheard hmessage _ _ => cases hline.symm.trans (ofLine?_eq_some_iff.mpr hmessage)
    | some m =>
      have hmessage : IsMessage c.nesting line m.topic m.names := ofLine?_eq_some_iff.mp hline
      constructor
      · intro h
        obtain ⟨t, ht, rfl⟩ := Option.map_eq_some_iff.mp h
        unfold accept at ht
        split at ht
        · rename_i hannounces
          exact .unheard hmessage hannounces ht
        · cases ht
      · intro h
        cases h with
        | unreadable hread hlimit => exact absurd (hreadable _ hread) hlimit
        | unheard hmessage' hannounces hheard =>
          cases hline.symm.trans (ofLine?_eq_some_iff.mpr hmessage')
          simp only [accept, if_pos hannounces, hheard, Option.map_some]

/-! The lines of a piece. -/

theorem noneFails_singleton_iff {hear : Listener} {nesting : Nat} {announces : Bool}
    {r : Registry} {line : List Char} :
    NoneFails hear nesting announces r [line] ↔
      ∀ e, ¬ LineFault hear nesting announces r line e := by
  let c := ofRegistry ⟨"", default, default, announces⟩ r nesting
  have hhandled :
      NoneFails hear nesting announces r [line] ↔ (c.handleLine hear line).2 = none := by
    have hnesting : c.nesting = nesting := rfl
    unfold NoneFails handleLine
    rw [hnesting]
    cases Message.ofLine? nesting line with
    | error e => simp
    | ok found =>
      cases found with
      | none => simp [NoneFails]
      | some m => cases announces <;> simp [NoneFails, accept, c, ofRegistry]
  rw [hhandled, Option.eq_none_iff_forall_ne_some]
  exact forall_congr' fun e => not_congr (c.handleLine_eq_some_iff hear line e)

theorem noneFails_cons_iff {hear : Listener} {nesting : Nat} {announces : Bool}
    {r : Registry} {line : List Char} {lines : List (List Char)} :
    NoneFails hear nesting announces r (line :: lines) ↔
      (∀ e, ¬ LineFault hear nesting announces r line e) ∧
      NoneFails hear nesting announces (registryAfter r (messages nesting [line])) lines := by
  rw [← List.singleton_append, noneFails_append, noneFails_singleton_iff]

theorem not_noneFails_iff {hear : Listener} {nesting : Nat} {announces : Bool}
    {r : Registry} {lines : List (List Char)} :
    ¬ NoneFails hear nesting announces r lines ↔
      ∃ early line late e, lines = early ++ line :: late ∧
        LineFault hear nesting announces (registryAfter r (messages nesting early)) line e := by
  induction lines generalizing r with
  | nil => simp [NoneFails]
  | cons first lines ih =>
    rw [noneFails_cons_iff, not_and_or, ih]
    constructor
    · rintro (hfirst | ⟨early, line, late, e, rfl, hfault⟩)
      · obtain ⟨e, hfault⟩ := not_forall_not.mp hfirst
        exact ⟨[], first, lines, e, rfl, hfault⟩
      · refine ⟨first :: early, line, late, e, rfl, ?_⟩
        rwa [← List.singleton_append, messages_append, registryAfter_append]
    · rintro ⟨early, line, late, e, heq, hfault⟩
      cases early with
      | nil =>
        cases heq
        exact Or.inl fun hnone => hnone e hfault
      | cons first' early =>
        cases heq
        rw [← List.singleton_append, messages_append, registryAfter_append] at hfault
        exact Or.inr ⟨early, line, late, e, rfl, hfault⟩

theorem handlePieces_eq_none_iff (hear : Listener) (c : Client) (lines : List (List Char))
    (last : List Char) :
    (c.handlePieces hear (lines ++ [last])).2 = none ↔
      NoneFails hear c.nesting c.settings.announces c.registry lines := by
  constructor
  · induction lines generalizing c with
    | nil => exact fun _ => trivial
    | cons line lines ih =>
      intro h
      obtain ⟨next, rest, hrest⟩ : ∃ next rest, lines ++ [last] = next :: rest :=
        List.exists_cons_of_ne_nil (by simp)
      rw [List.cons_append, hrest] at h
      cases hline : c.handleLine hear line with
      | mk c' failed =>
        cases failed with
        | some e => simp [handlePieces, hline] at h
        | none =>
          have hc' : c' = c.afterLines [line] c.buffer := by
            have heq := handleLine_eq hear c line (by rw [hline])
            rwa [hline] at heq
          simp only [handlePieces, hline] at h
          rw [← hrest] at h
          have hlater := ih c' h
          rw [hc'] at hlater
          refine noneFails_cons_iff.mpr ⟨fun e hfault => ?_, hlater⟩
          have hfailed := (c.handleLine_eq_some_iff hear line e).mpr hfault
          rw [hline] at hfailed
          cases hfailed
  · exact handlePieces_of_noneFails hear c lines last

theorem feedBytes_eq_none_iff {hear : Listener} {c : Client} {bytes : List UInt8}
    {lines : List (List Char)} {last : List Char}
    (hlines : Lines (c.buffer ++ (Utf8.decodePiece c.decoder bytes).1) lines last) :
    (c.feedBytes hear bytes).2 = none ↔
      NoneFails hear c.nesting c.settings.announces c.registry lines := by
  simp only [feedBytes, feed, hlines.splitOn_eq]
  exact handlePieces_eq_none_iff hear _ lines last

/-! How a session ends. -/

def phaseOf (c : Client) (k : Nat) : Option Phase := c.sessions[k]?.map Session.phase

theorem phaseOf_of_links {c c' : Client} (h : c'.links = c.links) (k : Nat) :
    c'.phaseOf k = c.phaseOf k := by
  rw [phaseOf, phaseOf, (session_sessions_of_links h).2]

theorem disconnect_phaseOf (c : Client) (k : Nat) : c.disconnect.phaseOf k = c.phaseOf k := by
  have hforget : ∀ c : Client, c.forget.sessions = c.sessions := dropWriter_sessions
  unfold disconnect
  split
  · rw [phaseOf, hforget, phaseOf]
  · rename_i j _
    rw [phaseOf, hforget, phaseOf, cancelSession, List.getElem?_modify]
    cases c.sessions[k]? with
    | none => rfl
    | some s =>
      by_cases hjk : j = k <;> by_cases hover : s.phase = .finished <;> simp [hjk, hover]

theorem closeSession_phaseOf {c : Client} {k : Nat} {p : Phase} (h : c.phaseOf k = some p) :
    (c.closeSession k).phaseOf k = some .finished := by
  have hsessions : (c.closeSession k).sessions =
      c.sessions.modify k fun s => { s with phase := .finished } := by
    unfold closeSession
    split
    · change c.dropWriter.sessions.modify k _ = _
      rw [dropWriter_sessions]
    · rfl
  obtain ⟨s, hs, _⟩ := Option.map_eq_some_iff.mp h
  rw [phaseOf, hsessions, List.getElem?_modify_eq, hs]
  rfl

/-- Operations may ask a session to stop, but how far it has come is its own doing. -/
theorem operationsKeep_phaseOf (k : Nat) (p : Phase) :
    OperationsKeep fun c => c.phaseOf k = some p where
  watched := fun _ _ _ _ _ h => h
  cancelTimer := by
    intro c h
    rwa [phaseOf_of_links c.cancelTimer_links]
  fired := fun _ _ _ _ _ h => h
  scheduled := by
    intro c now d h
    rwa [phaseOf_of_links (c.scheduleReconnect_links now d)]
  disconnect := by
    intro c h
    rwa [disconnect_phaseOf]
  connect := by
    intro c d h
    have hold : c.cancelTimer.disconnect.phaseOf k = some p := by
      rwa [disconnect_phaseOf, phaseOf_of_links c.cancelTimer_links]
    obtain ⟨s, hs, hp⟩ := Option.map_eq_some_iff.mp hold
    have hnew : (c.connect d).sessions[k]? = some s := by
      change (c.cancelTimer.disconnect.sessions ++ [_])[k]? = some s
      rw [List.getElem?_append_left (List.getElem?_eq_some_iff.mp hs).1, hs]
    rw [phaseOf, hnew, Option.map_some, hp]

/-- The events that end a session that reads, if `fails` says whether bytes do. -/
def EndsAt (k : Nat) (fails : Listener → List UInt8 → Prop) : ClientEvent → Prop
  | .session hear j (.received bytes) => j = k ∧ fails hear bytes
  | .session _ j .streamEnded => j = k
  | .session _ j (.broken _) => j = k
  | .session _ j .stopped => j = k
  | _ => False

theorem Reads.over_iff {c : Client} {k : Nat} (h : c.Reads k) (e : ClientEvent) :
    (c.step e).phaseOf k = some .finished ↔
      EndsAt k (fun hear bytes => (c.feedBytes hear bytes).2 ≠ none) e := by
  obtain ⟨d, w, hs⟩ := h.reading
  have hphase : c.phaseOf k = some (.reading w) := by rw [phaseOf, hs]; rfl
  have hkept : ∀ {c' : Client}, c'.phaseOf k = some (.reading w) →
      c'.phaseOf k ≠ some .finished := by
    intro c' hc'
    rw [hc']
    simp
  cases e with
  | session hear j e =>
    by_cases hjk : j = k
    · subst hjk
      have hstep : c.step (.session hear j e) = c.react hear j ⟨d, .reading w, false⟩ e := by
        simp only [Client.step, Client.sessionEvent, hs]
      rw [hstep]
      cases e with
      | begun => exact iff_of_false (hkept hphase) id
      | openingEnded o => exact iff_of_false (hkept hphase) id
      | received bytes =>
        obtain ⟨registry, announced, buffer, decoder, hfeed⟩ := feedBytes_frame hear c bytes
        simp only [react, Bool.false_eq_true, if_false, EndsAt, true_and]
        rcases c.received_eq hear j bytes with ⟨hnone, heq⟩ | ⟨hsome, warnings, heq⟩ <;> rw [heq]
        · refine iff_of_false (hkept ?_) fun hfails => hfails hnone
          rw [hfeed]
          exact hphase
        · refine iff_of_true (closeSession_phaseOf (p := .reading w) ?_) hsome
          rw [hfeed]
          exact hphase
      | streamEnded => exact iff_of_true (closeSession_phaseOf hphase) rfl
      | broken reason =>
        refine iff_of_true (closeSession_phaseOf (p := .reading w) ?_) rfl
        exact hphase
      | stopped => exact iff_of_true (closeSession_phaseOf hphase) rfl
    · have hj : c.session ≠ some j := by
        rw [h.own]
        simpa using Ne.symm hjk
      refine iff_of_false (hkept ?_) ?_
      · rw [phaseOf, (h.links.step_other hear hj e).2 k hjk]
        exact hphase
      · cases e <;> simp [EndsAt, hjk]
  | _ =>
    refine iff_of_false (hkept ?_) id
    exact (operationsKeep_phaseOf k _).step (by simp) hphase

/-- Bytes that go on with a stream complete a line that fails. Its message, if it is one, comes
after all those of the lines before it. -/
def BringsFault (nesting : Nat) (announces : Bool) (r : Registry) (stream : List UInt8)
    (hear : Listener) (bytes : List UInt8) : Prop :=
  ∃ lines early line late e, Framed stream lines ∧
    Framed (stream ++ bytes) (lines ++ (early ++ line :: late)) ∧
    LineFault hear nesting announces (registryAfter r (messages nesting (lines ++ early))) line e

theorem HasRead.feedBytes_ne_none_iff {start c : Client} {k : Nat} {stream : List UInt8}
    {read : List (List Char)} (h : HasRead start c k stream read) (hear : Listener)
    (bytes : List UInt8) :
    (c.feedBytes hear bytes).2 ≠ none ↔
      BringsFault start.nesting start.settings.announces start.registry stream hear bytes := by
  obtain ⟨lines, last, hlines, hintake, _⟩ := h.taken
  obtain ⟨lines', last', hlines'⟩ :=
    Lines.exists_lines (last ++ (Utf8.decodePiece (Utf8.decodePiece .ground stream).2 bytes).1)
  have hframed : Framed stream lines := framed_iff.mpr ⟨last, hlines⟩
  have hframed' : Framed (stream ++ bytes) (lines ++ lines') :=
    framed_iff.mpr ⟨last', lines_append_piece hlines hlines'⟩
  have hnone : (c.feedBytes hear bytes).2 = none ↔ _ :=
    feedBytes_eq_none_iff (lines_piece hintake hlines')
  simp only [intake, intakeAfter, Prod.mk.injEq] at hintake
  obtain ⟨hsettings, hnesting, hregistry, _⟩ := hintake
  rw [hsettings, hnesting, hregistry] at hnone
  rw [Ne, hnone, not_noneFails_iff]
  constructor
  · rintro ⟨early, line, late, e, rfl, hfault⟩
    refine ⟨lines, early, line, late, e, hframed, hframed', ?_⟩
    rw [messages_append, registryAfter_append]
    exact hfault
  · rintro ⟨lines₀, early, line, late, e, hframed₀, hframed₁, hfault⟩
    obtain rfl : lines₀ = lines := hframed₀.unique hframed
    have heq : lines' = early ++ line :: late :=
      List.append_cancel_left (hframed'.unique hframed₁)
    rw [messages_append, registryAfter_append] at hfault
    exact ⟨early, line, late, e, heq, hfault⟩

/-- A line fails exactly if it goes beyond a limit of the reader or its listener has trouble with
the message that it is; it cannot go beyond a limit without a long run of digits or more opening
brackets than values may nest. A line that is no message changes nothing. From the moment its
connection opens, and as long as the client does not give it up, a session ends exactly at the end
of the stream, when the connection breaks, when it is asked to stop, or with bytes that complete a
line which fails. -/
theorem run_session_over_iff_fault (settings : ClientSettings) (registry : Registry) (nesting : Nat)
    (before : List ClientEvent) (listener : Listener) (k : Nat) (s : Session) :
    let c := (ofRegistry settings registry nesting).run before
    let opened := c.step (.session listener k (.openingEnded .opened))
    (∀ (hear : Listener) (c' : Client) (line : List Char),
      (∀ e, (c'.handleLine hear line).2 = some e ↔
        LineFault hear c'.nesting c'.settings.announces c'.registry line e) ∧
      (¬ Json.LongDigits line → Json.openings line ≤ c'.nesting →
        ∀ e, (c'.handleLine hear line).2 = some e → ∃ t, e = .listener t) ∧
      ((∀ topic names, ¬ IsMessage c'.nesting line topic names) →
        (c'.handleLine hear line).1 = c')) ∧
    (c.session = some k → c.sessions[k]? = some s → s.phase = .opening →
      ∀ events, (opened.run events).session = some k → ∀ e,
        (((opened.run events).step e).phaseOf k = some .finished ↔
          EndsAt k
            (BringsFault nesting c.settings.announces c.registry (bytesReceived k events)) e)) := by
  intro c opened
  constructor
  · intro hear c' line
    refine ⟨c'.handleLine_eq_some_iff hear line, ?_, handleLine_of_not_isMessage hear c'⟩
    intro hdigits hopenings e he
    cases e with
    | listener t => exact ⟨t, rfl⟩
    | line e =>
      rcases ((c'.handleLine_eq_some_iff hear line _).mp he).beyond_limit with hlong | hdeep
      · exact absurd hlong hdigits
      · exact absurd hdeep (Nat.not_lt.mpr hopenings)
  · intro hk hs hphase events hown e
    have hlive : c.OwnSessionLive :=
      kept_ownSessionLive.run (ownSessionLive_ofRegistry settings registry nesting) before
    have hrested : c.LinksSound ∧ c.Rested :=
      Rested.preserved.run
        ⟨linksSound_ofRegistry settings registry nesting,
          rested_ofRegistry settings registry nesting⟩ before
    have hread := (hasRead_opened hrested.1 hlive hrested.2 listener hk hs hphase).run events hown
    rw [List.nil_append] at hread
    have hnesting : c.nesting = nesting := (preserved_nesting nesting).run rfl before
    rw [hread.reads.over_iff e, ← hnesting]
    cases e with
    | session hear j e =>
      cases e with
      | received bytes => exact and_congr_right' (hread.feedBytes_ne_none_iff hear bytes)
      | _ => exact Iff.rfl
    | _ => exact Iff.rfl

/-- A session that has read a line goes on with another one, and ends with its stream. -/
theorem run_session_over_iff_fault_second_line :
    let quiet : Listener := fun _ => none
    let c := (ofRegistry default default).run [.connect ⟨4000, 1⟩, .session quiet 0 .begun]
    let opened := c.step (.session quiet 0 (.openingEnded .opened))
    let events : List ClientEvent := [.session quiet 0 (.received [0x31, 0x0A])]
    c.session = some 0 ∧ c.sessions[0]? = some ⟨⟨4000, 1⟩, .opening, false⟩ ∧
      (opened.run events).session = some 0 ∧
      ¬ BringsFault usualRoom false default [0x31, 0x0A] quiet [0x5B, 0x0A] ∧
      ((opened.run events).step (.session quiet 0 .streamEnded)).phaseOf 0 = some .finished := by
  intro quiet c opened events
  have hk : c.session = some 0 := by decide +kernel
  have hs : c.sessions[0]? = some ⟨⟨4000, 1⟩, .opening, false⟩ := by decide +kernel
  have hown : (opened.run events).session = some 0 := by decide +kernel
  obtain ⟨_, hover⟩ := run_session_over_iff_fault default default usualRoom
    [.connect ⟨4000, 1⟩, .session quiet 0 .begun] quiet 0 ⟨⟨4000, 1⟩, .opening, false⟩
  have hover := hover hk hs rfl events hown
  refine ⟨hk, hs, hown, fun hfault => ?_, (hover _).mpr rfl⟩
  have hend := (hover (.session quiet 0 (.received [0x5B, 0x0A]))).mpr ⟨rfl, hfault⟩
  have hreads : ((opened.run events).step (.session quiet 0 (.received [0x5B, 0x0A]))).phaseOf 0 =
      some (.reading 0) := by decide +kernel
  cases hreads.symm.trans hend

theorem framed_ones (n : Nat) :
    Framed (List.replicate n 0x31 ++ [0x0A]) [List.replicate n '1'] := by
  have hdecodes :
      Utf8.Decodes (List.replicate n 0x31 ++ [0x0A]) (List.replicate n '1' ++ ['\n']) := by
    induction n with
    | zero => exact .char '\n' .nil
    | succ n ih => exact .char '1' ih
  refine ⟨_, [], hdecodes, by simp, ?_, by simp⟩
  intro line hline
  rw [List.mem_singleton.mp hline]
  simp [List.mem_replicate]

/-- A line that is one long number is no message, but it ends the session that receives it. -/
theorem run_session_over_long_number :
    let quiet : Listener := fun _ => none
    let c := (ofRegistry default default).run
      [.connect ⟨4000, 1⟩, .session quiet 0 .begun, .session quiet 0 (.openingEnded .opened)]
    let line := List.replicate 4301 '1'
    (c.handleLine quiet line).2 = some (.line .tooManyDigits) ∧
      (∀ topic names, ¬ IsMessage c.nesting line topic names) ∧ c.phaseOf 0 = some (.reading 0) ∧
      (c.step (.session quiet 0 (.received (List.replicate 4301 0x31 ++ [0x0A])))).phaseOf 0 =
        some .finished := by
  intro quiet c line
  have hread : ∀ nesting, Json.read (Json.loose nesting) line = .error .tooManyDigits :=
    fun _ => Json.read_loose_ones (by decide)
  have hfault : ∀ nesting announces r,
      LineFault quiet nesting announces r line (.line .tooManyDigits) :=
    fun _ _ _ => .unreadable (hread _) (by decide)
  have hreads : HasRead _ c 0 [] [] :=
    hasRead_opened
      (kept_linksSound.run (linksSound_ofRegistry default default _)
        [.connect ⟨4000, 1⟩, .session quiet 0 .begun])
      (kept_ownSessionLive.run (ownSessionLive_ofRegistry default default _) _)
      ⟨fun _ => ⟨rfl, rfl⟩, by decide⟩ quiet (k := 0) (s := ⟨⟨4000, 1⟩, .opening, false⟩)
      (by decide) (by decide) rfl
  refine ⟨(c.handleLine_eq_some_iff quiet line _).mpr (hfault _ _ _), ?_, by decide, ?_⟩
  · rintro topic names ⟨fields, htable, _⟩
    cases (hread _).symm.trans htable
  · refine (hreads.reads.over_iff _).mpr ⟨rfl, (hreads.feedBytes_ne_none_iff quiet _).mpr ?_⟩
    exact ⟨[], [], line, [], _, framed_iff.mpr ⟨[], rfl, by simp, by simp⟩, framed_ones 4301,
      hfault _ _ _⟩

end Client

end PatternServer.Engine
