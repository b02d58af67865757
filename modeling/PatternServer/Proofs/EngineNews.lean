import PatternServer.Engine.Simulation
import PatternServer.Proofs.ClientRuns

/-!
# What engine clients tell of the vocabulary

A client that announces its changes tells of every registry that it comes to have: whatever is done
to it, what it had told stays told, and its registry is the last one of which it has told since, or
the one from before. The same holds of a world of clients, whose record names the client with each
change.
-/

namespace PatternServer.Engine

set_option autoImplicit false

open PatternServer.Number PatternServer.Vocabulary

namespace Client

/-- How a client goes on: it keeps its settings, and if it announces changes, its registry is the
last one that it tells of. -/
structure Told (c c' : Client) : Prop where
  settings : c'.settings = c.settings
  news : ∃ news, c'.announced = c.announced ++ news ∧
    (c.settings.announces = true → c'.registry = news.getLast?.getD c.registry)

namespace Told

variable {c c' c'' : Client}

theorem of_eq (hsettings : c'.settings = c.settings) (hregistry : c'.registry = c.registry)
    (hannounced : c'.announced = c.announced) : c.Told c' :=
  ⟨hsettings, [], by rw [hannounced, List.append_nil], fun _ => hregistry⟩

theorem of_lore (h : c'.lore = c.lore) : c.Told c' := by
  simp only [lore, Prod.mk.injEq] at h
  exact of_eq h.2.1 h.2.2.1 h.2.2.2

theorem refl (c : Client) : c.Told c := of_lore rfl

theorem trans (h : c.Told c') (h' : c'.Told c'') : c.Told c'' := by
  obtain ⟨news, hannounced, hregistry⟩ := h.news
  obtain ⟨news', hannounced', hregistry'⟩ := h'.news
  refine ⟨h'.settings.trans h.settings, news ++ news', ?_, ?_⟩
  · rw [hannounced', hannounced, List.append_assoc]
  · intro hannounces
    rw [hregistry' (h.settings ▸ hannounces), hregistry hannounces, List.getLast?_append]
    cases news'.getLast? <;> rfl

theorem accept (hear : Listener) (c : Client) (m : Message) : c.Told (c.accept hear m).1 := by
  unfold Client.accept
  split
  · exact ⟨rfl, [m.apply c.registry], rfl, fun _ => rfl⟩
  · rename_i hquiet
    exact ⟨rfl, [], (List.append_nil _).symm, fun hannounces => absurd hannounces hquiet⟩

theorem handleFields (hear : Listener) (c : Client) (fields : List (String × Data.Value)) :
    c.Told (c.handleFields hear fields).1 := by
  unfold Client.handleFields
  split
  · exact accept hear c _
  · exact refl c

theorem handleLine (hear : Listener) (c : Client) (line : List Char) :
    c.Told (c.handleLine hear line).1 := by
  unfold Client.handleLine
  split
  · exact refl c
  · exact refl c
  · exact accept hear c _

theorem handlePieces (hear : Listener) (c : Client) (pieces : List (List Char)) :
    c.Told (c.handlePieces hear pieces).1 := by
  fun_induction Client.handlePieces hear c pieces with
  | case1 c => exact of_lore rfl
  | case2 c last => exact of_lore rfl
  | case3 c line rest _ c' hline ih =>
    have h := handleLine hear c line
    rw [hline] at h
    exact h.trans ih
  | case4 c line rest _ c' e hline =>
    have h := handleLine hear c line
    rw [hline] at h
    exact h.trans (of_lore rfl)

theorem feed (hear : Listener) (c : Client) (text : List Char) : c.Told (c.feed hear text).1 :=
  handlePieces hear c _

theorem received (hear : Listener) (c : Client) (k : Nat) (bytes : List UInt8) :
    c.Told (c.received hear k bytes) := by
  have hdecoded : ∀ decoder, c.Told { c with decoder } := fun decoder => of_lore rfl
  have hfed : c.Told (c.feedBytes hear bytes).1 := (hdecoded _).trans (feed hear _ _)
  rcases c.received_eq hear k bytes with ⟨_, heq⟩ | ⟨_, warnings, heq⟩ <;> rw [heq]
  · exact hfed
  · exact hfed.trans (of_lore (closeSession_lore _ k))

theorem sessionStep {hear : Listener} {k : Nat} (hstep : SessionStep hear c k c') : c.Told c' := by
  cases hstep with
  | ignored => exact refl c
  | closed warnings => exact of_lore (closeSession_lore _ k)
  | ended => exact of_lore rfl
  | begun => exact of_lore rfl
  | opened _ _ o => exact of_lore (c.opened_lore k o)
  | received _ _ _ bytes => exact received hear c k bytes

theorem preserved (c₀ : Client) : Preserved c₀.Told where
  watched := fun _ _ _ _ _ h => h.trans (of_eq rfl rfl rfl)
  cancelTimer := fun c h => h.trans (of_lore c.cancelTimer_lore)
  fired := fun _ _ _ _ _ h => h.trans (of_eq rfl rfl rfl)
  scheduled := fun c _ _ h => h.trans (of_lore c.cancelTimer_lore)
  disconnect := fun c h => h.trans (of_lore c.disconnect_lore)
  connect := fun c d h => h.trans (of_lore (c.connect_lore d))
  session := fun hstep h => h.trans (sessionStep hstep)

/-- Whatever happens to a client. -/
theorem step (c : Client) (e : ClientEvent) : c.Told (c.step e) :=
  (preserved c).step e (refl c)

end Told

end Client

namespace Simulation

/-! Worlds of clients. -/

theorem clients_currentPlace (s : Simulation) : s.clients[s.currentPlace]? = some s.client :=
  List.getElem?_concat_length

/-- The registry of the client at a place, after changes of which clients have told. -/
def latest (place : Nat) (r : Registry) (news : List (Nat × Registry)) : Registry :=
  news.foldl (fun r change => if change.1 = place then change.2 else r) r

theorem latest_append (place : Nat) (r : Registry) (news news' : List (Nat × Registry)) :
    latest place r (news ++ news') = latest place (latest place r news) news' := List.foldl_append

theorem latest_own (place : Nat) (r : Registry) (news : List Registry) :
    latest place r (news.map fun r => (place, r)) = news.getLast?.getD r := by
  induction news generalizing r with
  | nil => rfl
  | cons r' news ih =>
    rw [List.map_cons, latest, List.foldl_cons, if_pos rfl]
    refine (ih r').trans ?_
    rw [List.getLast?_cons]
    rfl

theorem latest_other {place k : Nat} (hk : k ≠ place) (r : Registry) (news : List Registry) :
    latest place r (news.map fun r => (k, r)) = r := by
  induction news with
  | nil => rfl
  | cons r' news ih =>
    rw [List.map_cons, latest, List.foldl_cons, if_neg hk]
    exact ih

/-- How a world goes on: the registry of the client that commands are for is the last one that this
client tells of, if it announces changes. -/
structure Told (s s' : Simulation) : Prop where
  place : s'.currentPlace = s.currentPlace
  settings : s'.client.settings = s.client.settings
  news : ∃ news, s'.announced = s.announced ++ news ∧
    (s.client.settings.announces = true →
      s'.client.registry = latest s.currentPlace s.client.registry news)

namespace Told

variable {s s' s'' : Simulation}

theorem of_eq (hretired : s'.retired = s.retired) (hclient : s'.client = s.client)
    (hannounced : s'.announced = s.announced) : s.Told s' where
  place := congrArg List.length hretired
  settings := by rw [hclient]
  news := ⟨[], by rw [hannounced, List.append_nil], fun _ => by rw [hclient]; rfl⟩

theorem refl (s : Simulation) : s.Told s := of_eq rfl rfl rfl

theorem trans (h : s.Told s') (h' : s'.Told s'') : s.Told s'' := by
  obtain ⟨news, hannounced, hregistry⟩ := h.news
  obtain ⟨news', hannounced', hregistry'⟩ := h'.news
  refine ⟨h'.place.trans h.place, h'.settings.trans h.settings, news ++ news', ?_, ?_⟩
  · rw [hannounced', hannounced, List.append_assoc]
  · intro hannounces
    rw [hregistry' (h.settings ▸ hannounces), hregistry hannounces, h.place, latest_append]

/-- The registry stays as it is if nothing is told. -/
theorem registry_of_drop_nil (h : s.Told s') (hannounces : s.client.settings.announces = true)
    (hdrop : s'.announced.drop s.announced.length = []) :
    s'.client.registry = s.client.registry := by
  obtain ⟨news, hannounced, hregistry⟩ := h.news
  rw [hannounced, List.drop_left] at hdrop
  rw [hregistry hannounces, hdrop]
  rfl

/-- If the last to tell of a change is the client that commands are for, its registry is the one
that it has told of. -/
theorem registry_of_drop_concat (h : s.Told s') (hannounces : s.client.settings.announces = true)
    {early : List (Nat × Registry)} {change : Nat × Registry}
    (hdrop : s'.announced.drop s.announced.length = early ++ [change])
    (hplace : change.1 = s'.currentPlace) : s'.client.registry = change.2 := by
  obtain ⟨news, hannounced, hregistry⟩ := h.news
  rw [hannounced, List.drop_left] at hdrop
  rw [h.place] at hplace
  rw [hregistry hannounces, hdrop, latest_append]
  exact if_pos hplace

theorem foldl {α : Type} {f : Simulation → α → Simulation}
    (hf : ∀ (s : Simulation) a, s.Told (f s a)) (l : List α) (s : Simulation) :
    s.Told (l.foldl f s) := by
  induction l generalizing s with
  | nil => exact refl s
  | cons a l ih => exact (hf s a).trans (ih (f s a))

theorem update {k : Nat} {c c' : Client} (hc : s.clients[k]? = some c) (h : c.Told c') :
    s.Told (s.update k c c') := by
  obtain ⟨news, hannounced, hregistry⟩ := h.news
  have hnews : c'.announced.drop c.announced.length = news := by
    rw [hannounced, List.drop_left]
  by_cases hk : k = s.currentPlace
  · subst hk
    obtain rfl : s.client = c := by
      rw [clients_currentPlace] at hc
      exact Option.some.inj hc
    refine ⟨List.length_set, ?_, news.map fun r => (s.currentPlace, r), ?_, ?_⟩
    · simp only [Simulation.update, if_true, h.settings]
    · simp only [Simulation.update, hnews]
    · intro hannounces
      simp only [Simulation.update, if_true, hregistry hannounces, latest_own]
  · refine ⟨List.length_set, ?_, news.map fun r => (k, r), ?_, ?_⟩
    · simp only [Simulation.update, if_neg hk]
    · simp only [Simulation.update, hnews]
    · intro _
      simp only [Simulation.update, if_neg hk, latest_other hk]

theorem modifyClient (s : Simulation) (k : Nat) {f : Client → Client}
    (hf : ∀ c, s.clients[k]? = some c → c.Told (f c)) : s.Told (s.modifyClient k f) := by
  unfold Simulation.modifyClient
  split
  · exact refl s
  · rename_i c hc
    exact update hc (hf c hc)

/-- Whatever happens to the client that commands are for. -/
theorem modifyCurrent (s : Simulation) (e : ClientEvent) :
    s.Told (s.modifyCurrent fun c => c.step e) :=
  modifyClient s _ fun c _ => .step c e

theorem withCurrent (s : Simulation) {r : Client × Option FeedError} (h : s.client.Told r.1) :
    s.Told (s.withCurrent r).1 := by
  refine modifyClient s _ fun c hc => ?_
  rw [clients_currentPlace] at hc
  exact Option.some.inj hc ▸ h

theorem sessionEvent (hear : Audience) (s : Simulation) (r : Ref) (e : SessionEvent) :
    s.Told (s.sessionEvent hear r e) :=
  modifyClient s _ fun c _ => .step c (.session (hear r.client) r.place e)

theorem attempt (hear : Audience) (s : Simulation) (r : Ref) : s.Told (s.attempt hear r) := by
  unfold Simulation.attempt
  split
  · exact sessionEvent hear s r _
  · exact sessionEvent hear s r _
  · exact of_eq rfl rfl rfl
  · exact of_eq rfl rfl rfl
  · exact sessionEvent hear s r _
  · exact sessionEvent hear s r _

theorem beginSession (hear : Audience) (s : Simulation) (r : Ref) :
    s.Told (s.beginSession hear r) := by
  have hbegun := sessionEvent hear s r .begun
  simp only [Simulation.beginSession]
  split
  · split
    · exact hbegun.trans (attempt hear _ r)
    · exact hbegun
  · exact hbegun

theorem runSession (hear : Audience) (s : Simulation) (r : Ref) : s.Told (s.runSession hear r) := by
  unfold Simulation.runSession
  split
  · exact refl s
  · split
    · exact refl s
    · exact beginSession hear s r
    · split
      · unfold stopSession
        split <;> exact sessionEvent hear s r _
      · exact refl s

theorem turn (hear : Audience) (s : Simulation) (arrival : Option (Ref × SessionEvent)) :
    s.Told (s.turn hear arrival) := by
  have hrun := foldl (runSession hear) s.sessions s
  have harrive : ∀ s : Simulation, s.Told (s.arrive hear arrival) := by
    intro s
    unfold arrive
    split
    · exact refl s
    · exact sessionEvent hear s _ _
  have hfire : ∀ s : Simulation, s.Told s.fireDueTimers :=
    fun s => foldl (fun s t => modifyClient s _ fun c _ => .step c (.timer _)) s.dueTimers s
  exact (hrun.trans (harrive _)).trans (hfire _)

theorem settleWith (hear : Audience) (s : Simulation) (arrival : Option (Ref × SessionEvent)) :
    s.Told (s.settleWith hear arrival) :=
  (turn hear s arrival).trans (turn hear _ none)

theorem onConnection (s : Simulation) (i : Int) {f : Ref → Simulation × Option CommandError}
    (hf : ∀ r, s.Told (f r).1) : s.Told (s.onConnection i f).1 := by
  unfold Simulation.onConnection
  split
  · exact refl s
  · exact hf _

/-- Whatever is done to a client or to its world. -/
theorem run (hear : Audience) (s : Simulation) (command : Command) :
    s.Told (s.run hear command).1 := by
  cases command with
  | start => exact modifyCurrent s (.start s.current s.liveness)
  | discover d => exact modifyCurrent s (.discover s.now d s.liveness)
  | connect d => exact modifyCurrent s (.connect d)
  | schedule d => exact modifyCurrent s (.schedule s.now d)
  | disconnect => exact modifyCurrent s .disconnect
  | shutdown => exact modifyCurrent s .shutdown
  | feed text => exact withCurrent s (.feed _ s.client text)
  | message fields => exact withCurrent s (.handleFields _ s.client fields)
  | setMode mode => exact of_eq rfl rfl rfl
  | setWorld running current => exact of_eq rfl rfl rfl
  | settle => exact settleWith hear s none
  | advance seconds =>
    have hclock : s.Told { s with now := s.now.add seconds } := of_eq rfl rfl rfl
    exact hclock.trans (settleWith hear _ none)
  | send bytes i =>
    refine onConnection s i fun connection => ?_
    unfold Simulation.send
    split
    · exact refl s
    · exact settleWith hear s _
  | endStream i =>
    refine onConnection s i fun connection => ?_
    have hended : s.Told { s with ended := connection :: s.ended } := of_eq rfl rfl rfl
    exact hended.trans (settleWith hear _ _)
  | breakStream i => exact onConnection s i fun connection => settleWith hear s _
  | release gate refuse =>
    simp only [Simulation.run, Simulation.release]
    split
    · exact refl s
    · exact settleWith hear s _

end Told

end Simulation

end PatternServer.Engine
