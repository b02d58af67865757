import Mathlib.Data.List.Basic
import PatternServer.Proofs.EngineNews
import PatternServer.Server.Lifecycle

/-!
# Published diagnostics are up to date

What the editor and the engine do to a server comes as a list of events. A document that the editor
names as the workspace does has, after every event that succeeds, the report of its current text
under the current vocabulary: this report is published and was the last to be sent. When the
document is closed, its report is gone and the last to be sent is empty.

A change of the vocabulary leads to a validation of every document under the name by which the
workspace stores it. All this holds for every workspace, whatever its rules are. Where the rules
store a document under another name than the editor's, what is published for it stays as it was.
-/

set_option autoImplicit false

namespace PatternServer.Diagnostics.Published

theorem find?_put_self (uri : String) (report : Report) (l : List (String × Report)) :
    (put uri report l).find? (fun p => p.1 == uri) = some (uri, report) := by
  induction l with
  | nil => simp [put]
  | cons p rest ih =>
    unfold put
    split
    · simp
    · rename_i hp
      simp [hp, ih]

theorem find?_put_of_ne {uri v : String} (hv : v ≠ uri) (report : Report)
    (l : List (String × Report)) :
    (put v report l).find? (fun p => p.1 == uri) = l.find? (fun p => p.1 == uri) := by
  induction l with
  | nil => simp [put, hv]
  | cons p rest ih =>
    unfold put
    split
    · rename_i hp
      simp [hp, hv]
    · rw [List.find?_cons, List.find?_cons, ih]

@[simp] theorem get?_publish_self (p : Published) (uri : String) (report : Report) :
    (p.publish uri report).get? uri = some report := by
  simp [get?, publish, find?_put_self]

theorem get?_publish_of_ne (p : Published) {uri v : String} (hv : v ≠ uri) (report : Report) :
    (p.publish v report).get? uri = p.get? uri := by
  simp [get?, publish, find?_put_of_ne hv]

@[simp] theorem get?_drop_self (p : Published) (uri : String) : (p.drop uri).get? uri = none := by
  simp [get?, drop, List.find?_filter]

theorem get?_drop_of_ne (p : Published) {uri v : String} (hv : v ≠ uri) :
    (p.drop v).get? uri = p.get? uri := by
  unfold get? drop
  rw [List.find?_filter]
  refine congrArg (fun f => (p.reports.find? f).map (·.2)) (funext fun q => ?_)
  by_cases hq : q.1 = uri <;> simp [hq, Ne.symm hv]

end PatternServer.Diagnostics.Published

namespace PatternServer.Server

open PatternServer.Diagnostics PatternServer.Document PatternServer.Engine PatternServer.Notation
open PatternServer.Vocabulary

namespace Workspace

theorem find?_put_self (key : String) (text : List Char) (l : List (String × List Char)) :
    (put key text l).find? (fun d => d.1 == key) = some (key, text) := by
  induction l with
  | nil => simp [put]
  | cons d rest ih =>
    unfold put
    split
    · simp
    · rename_i hd
      simp [hd, ih]

theorem find?_put_of_ne {key other : String} (hother : other ≠ key) (text : List Char)
    (l : List (String × List Char)) :
    (put other text l).find? (fun d => d.1 == key) = l.find? (fun d => d.1 == key) := by
  induction l with
  | nil => simp [put, hother]
  | cons d rest ih =>
    unfold put
    split
    · rename_i hd
      simp [hd, hother]
    · rw [List.find?_cons, List.find?_cons, ih]

@[simp] theorem text?_openDocument_self (w : Workspace) (uri : String) (text : List Char) :
    (w.openDocument uri text).text? uri = some text := by
  simp [text?, openDocument, find?_put_self]

theorem text?_openDocument_of_ne (w : Workspace) {uri v : String}
    (hv : w.rules.key v ≠ w.rules.key uri) (text : List Char) :
    (w.openDocument v text).text? uri = w.text? uri := by
  simp [text?, openDocument, find?_put_of_ne hv]

@[simp] theorem text?_closeDocument_self (w : Workspace) (uri : String) :
    (w.closeDocument uri).text? uri = none := by
  simp [text?, closeDocument, List.find?_filter]

theorem text?_closeDocument_of_ne (w : Workspace) {uri v : String}
    (hv : w.rules.key v ≠ w.rules.key uri) : (w.closeDocument v).text? uri = w.text? uri := by
  unfold text? closeDocument
  rw [List.find?_filter]
  refine congrArg (fun f => (w.documents.find? f).map (·.2)) (funext fun d => ?_)
  by_cases hd : d.1 = w.rules.key uri <;> simp [hd, Ne.symm hv]

/-- Changes of an open document are made one after the other. -/
theorem changeAll_of_open {w : Workspace} {uri : String} {text : List Char}
    (h : w.text? uri = some text) (changes : List Change) :
    (w.changeAll uri changes).2 = true ∧
      (w.changeAll uri changes).1.text? uri =
        some (changes.foldl (w.rules.edit w.encoding) text) := by
  induction changes generalizing w text with
  | nil => exact ⟨rfl, h⟩
  | cons change rest ih =>
    have hchange : w.changeDocument? uri change =
        some (w.openDocument uri (w.rules.edit w.encoding text change)) := by
      simp [changeDocument?, h]
    rw [changeAll, hchange]
    exact ih (text?_openDocument_self w uri _)

theorem text?_changeAll_of_ne (w : Workspace) {uri v : String}
    (hv : w.rules.key v ≠ w.rules.key uri) (changes : List Change) :
    (w.changeAll v changes).1.text? uri = w.text? uri := by
  induction changes generalizing w with
  | nil => rfl
  | cons change rest ih =>
    unfold changeAll
    split
    · rename_i w' hw'
      obtain ⟨text, _, rfl⟩ := Option.map_eq_some_iff.mp hw'
      exact (ih (w.openDocument v _) hv).trans (text?_openDocument_of_ne w hv _)
    · rfl

/-- Changes leave everything but the documents as it is. -/
theorem changeAll_frame (w : Workspace) (uri : String) (changes : List Change) :
    ∃ documents, (w.changeAll uri changes).1 = { w with documents } := by
  induction changes generalizing w with
  | nil => exact ⟨w.documents, rfl⟩
  | cons change rest ih =>
    unfold changeAll
    split
    · rename_i w' hw'
      obtain ⟨text, _, rfl⟩ := Option.map_eq_some_iff.mp hw'
      exact ih _
    · exact ⟨w.documents, rfl⟩

theorem mem_keys_iff (w : Workspace) (uri : String) :
    w.rules.key uri ∈ w.keys ↔ (w.text? uri).isSome := by
  simp [keys, text?, List.find?_isSome]

end Workspace

/-! What is known of a document. -/

/-- The diagnostics for a document in a notification. -/
def Notification.diagnosticsFor? (uri : String) : Notification → Option (List Diagnostic)
  | .diagnostics v list => if v = uri then some list else none
  | .logMessage _ => none

/-- The diagnostics that were sent last for a document. -/
def lastSent? (s : Server) (uri : String) : Option (List Diagnostic) :=
  s.sent.reverse.findSome? (Notification.diagnosticsFor? uri)

/-- What is published for a document, and what was sent last for it. -/
def standing (s : Server) (uri : String) : Option Report × Option (List Diagnostic) :=
  (s.published.get? uri, s.lastSent? uri)

theorem lastSent?_send (s : Server) (uri : String) (n : Notification) :
    (s.send n).lastSent? uri = (n.diagnosticsFor? uri).or (s.lastSent? uri) := by
  unfold lastSent? send
  rw [List.reverse_append, List.reverse_singleton, List.singleton_append, List.findSome?_cons]
  cases n.diagnosticsFor? uri <;> rfl

/-- The report of a text under a registry stands for a document. -/
def Reported (r : Resources) (s : Server) (registry : Registry) (uri : String) (text : List Char) :
    Prop :=
  ∃ report, validate (parseWith r.parser) ⟨text, s.encoding, registry⟩ = .ok report ∧
    s.standing uri = (some report, some report.diagnostics)

theorem Reported.congr {r : Resources} {s s' : Server} {registry : Registry} {uri : String}
    {text : List Char} (h : Reported r s registry uri text) (hencoding : s'.encoding = s.encoding)
    (hstanding : s'.standing uri = s.standing uri) : Reported r s' registry uri text := by
  unfold Reported
  rw [hencoding, hstanding]
  exact h

section Validation
variable (r : Resources) (registry : Registry)

/-- A validation changes what is published and what has been sent. -/
theorem validateWith_frame (s : Server) (uri : String) :
    ∃ published sent, (s.validateWith r registry uri).1 = { s with published, sent } := by
  unfold validateWith
  split
  · exact ⟨s.published, s.sent, rfl⟩
  · split
    · exact ⟨s.published, s.sent, rfl⟩
    · exact ⟨_, _, rfl⟩

theorem validateWith_standing_of_ne (s : Server) {uri v : String} (hv : v ≠ uri) :
    (s.validateWith r registry v).1.standing uri = s.standing uri := by
  unfold validateWith
  split
  · rfl
  · split
    · rfl
    · simp only [standing, lastSent?_send, Notification.diagnosticsFor?, if_neg hv, Option.none_or]
      exact congrArg (·, _) (s.published.get?_publish_of_ne hv _)

theorem reported_validateWith {s : Server} {uri : String} {text : List Char}
    (htext : s.workspace.text? uri = some text)
    (h : (s.validateWith r registry uri).2 = none) :
    Reported r (s.validateWith r registry uri).1 registry uri text := by
  simp only [validateWith, document, htext] at h ⊢
  split at h
  · cases h
  · rename_i report hreport
    refine ⟨report, hreport, ?_⟩
    simp only [standing, lastSent?_send, Notification.diagnosticsFor?, if_true, Option.some_or]
    exact congrArg (·, _) (s.published.get?_publish_self uri report)

theorem validateThese_frame (s : Server) (uris : List String) :
    ∃ published sent, (s.validateThese r registry uris).1 = { s with published, sent } := by
  fun_induction validateThese r registry s uris with
  | case1 s => exact ⟨s.published, s.sent, rfl⟩
  | case2 s uri rest s' hs' ih =>
    obtain ⟨published, sent, heq⟩ := validateWith_frame r registry s uri
    rw [hs'] at heq
    change s' = _ at heq
    subst heq
    exact ih
  | case3 s uri rest s' e hs' =>
    obtain ⟨published, sent, heq⟩ := validateWith_frame r registry s uri
    rw [hs'] at heq
    exact ⟨published, sent, heq⟩

theorem validateThese_standing_of_notMem (s : Server) {uri : String} {uris : List String}
    (huri : uri ∉ uris) : (s.validateThese r registry uris).1.standing uri = s.standing uri := by
  fun_induction validateThese r registry s uris with
  | case1 s => rfl
  | case2 s v rest s' hs' ih =>
    obtain ⟨hv, hrest⟩ := List.ne_and_not_mem_of_not_mem_cons huri
    have hstanding := validateWith_standing_of_ne r registry s (Ne.symm hv)
    rw [hs'] at hstanding
    exact (ih hrest).trans hstanding
  | case3 s v rest s' e hs' =>
    obtain ⟨hv, _⟩ := List.ne_and_not_mem_of_not_mem_cons huri
    have hstanding := validateWith_standing_of_ne r registry s (Ne.symm hv)
    rw [hs'] at hstanding
    exact hstanding

/-- A document among those that are validated has its report afterwards: the validations that follow
its last one are of other documents. -/
theorem reported_validateThese {s : Server} {uri : String} {text : List Char} {uris : List String}
    (htext : s.workspace.text? uri = some text) (huri : uri ∈ uris)
    (h : (s.validateThese r registry uris).2 = none) :
    Reported r (s.validateThese r registry uris).1 registry uri text := by
  fun_induction validateThese r registry s uris with
  | case1 s => cases huri
  | case2 s v rest s' hs' ih =>
    obtain ⟨published, sent, heq⟩ := validateWith_frame r registry s v
    rw [hs'] at heq
    change s' = _ at heq
    by_cases hrest : uri ∈ rest
    · exact ih (by rw [heq]; exact htext) hrest h
    · obtain rfl : uri = v := (List.mem_cons.mp huri).resolve_right hrest
      have hreported := reported_validateWith r registry htext (by rw [hs'])
      rw [hs'] at hreported
      obtain ⟨published', sent', hlater⟩ := validateThese_frame r registry s' rest
      exact hreported.congr (by rw [hlater]; rfl)
        (validateThese_standing_of_notMem r registry s' hrest)
  | case3 s v rest s' e hs' => cases h

end Validation

section Revalidation
variable (r : Resources)

theorem revalidateFor_frame (s : Server) (changes : List (Nat × Registry)) :
    ∃ published sent, (s.revalidateFor r changes).1 = { s with published, sent } := by
  induction changes generalizing s with
  | nil => exact ⟨s.published, s.sent, rfl⟩
  | cons change rest ih =>
    obtain ⟨published, sent, heq⟩ :=
      validateThese_frame r (s.registryFor change.1 change.2) s s.workspace.keys
    simp only [revalidateFor, heq]
    exact ih _

theorem revalidateFor_standing_of_notMem {s : Server} {uri : String}
    (huri : uri ∉ s.workspace.keys) (changes : List (Nat × Registry)) :
    (s.revalidateFor r changes).1.standing uri = s.standing uri := by
  induction changes generalizing s with
  | nil => rfl
  | cons change rest ih =>
    obtain ⟨published, sent, heq⟩ :=
      validateThese_frame r (s.registryFor change.1 change.2) s s.workspace.keys
    have hstanding :=
      validateThese_standing_of_notMem r (s.registryFor change.1 change.2) s huri
    rw [heq] at hstanding
    simp only [revalidateFor, heq]
    refine (ih ?_).trans hstanding
    exact huri

/-- After changes, an open document has its report under the registry of the last. -/
theorem reported_revalidateFor {s : Server} {uri : String} {text : List Char}
    (htext : s.workspace.text? uri = some text) (huri : uri ∈ s.workspace.keys)
    (changes : List (Nat × Registry)) (change : Nat × Registry)
    (h : (s.revalidateFor r (changes ++ [change])).2 = none) :
    Reported r (s.revalidateFor r (changes ++ [change])).1 (s.registryFor change.1 change.2) uri
      text := by
  induction changes generalizing s with
  | nil =>
    simp only [List.nil_append, revalidateFor, Option.orElse_eq_orElse, Option.orElse_eq_or,
      Option.none_or] at h ⊢
    exact reported_validateThese r _ htext huri h
  | cons first rest ih =>
    obtain ⟨published, sent, heq⟩ :=
      validateThese_frame r (s.registryFor first.1 first.2) s s.workspace.keys
    simp only [List.cons_append, revalidateFor, Option.orElse_eq_orElse, Option.orElse_eq_or,
      Option.or_eq_none_iff, heq] at h ⊢
    refine ih ?_ ?_ h.1
    · exact htext
    · exact huri

theorem follow_eq (s : Server) (engine : Simulation) :
    ∃ log, s.follow r engine = ({ s with engine, log } : Server).revalidateFor r
      (engine.announced.drop s.engine.announced.length) := by
  have hwarn : ∀ (messages : List String) (s : Server),
      ∃ log, messages.foldl (fun (s : Server) message => s.warn .engineClient message) s =
        { s with log } := by
    intro messages
    induction messages with
    | nil => exact fun s => ⟨s.log, rfl⟩
    | cons message messages ih =>
      intro s
      obtain ⟨log, hlog⟩ := ih (s.warn .engineClient message)
      refine ⟨log, ?_⟩
      rw [List.foldl_cons, hlog, warn]
      split <;> rfl
  obtain ⟨log, hlog⟩ := hwarn (engine.warnings.drop s.engine.warnings.length) { s with engine }
  refine ⟨log, ?_⟩
  simp only [follow, hlog]

end Revalidation

/-! What the editor and the engine do. -/

/-- Something that is done to a server. -/
inductive Event where
  | opened (uri : String) (text : List Char)
  | changed (uri : String) (changes : List Change)
  | closed (uri : String)
  | engine (command : Command)

/-- The document that an event is about. -/
def Event.uri? : Event → Option String
  | .opened uri _ => some uri
  | .changed uri _ => some uri
  | .closed uri => some uri
  | .engine _ => none

def apply (r : Resources) (s : Server) : Event → Server
  | .opened uri text => (s.openDocument r uri text).1
  | .changed uri changes => (s.changeDocument r uri changes).1
  | .closed uri => s.closeDocument uri
  | .engine command => (s.runEngine r command).1

/-- An event succeeds: only a document that is open is changed, and every validation that the event
leads to gives a report. The engine may lead to any number of them. -/
def Succeeds (r : Resources) (s : Server) : Event → Prop
  | .opened uri text => (s.openDocument r uri text).2 = none
  | .changed uri changes =>
    (s.workspace.text? uri).isSome ∧ (s.changeDocument r uri changes).2 = none
  | .closed _ => True
  | .engine command => (s.follow r (s.engine.run (s.audience r) command).1).2 = none

instance (r : Resources) (s : Server) : DecidablePred (s.Succeeds r)
  | .opened uri text => inferInstanceAs (Decidable ((s.openDocument r uri text).2 = none))
  | .changed uri changes => inferInstanceAs
      (Decidable ((s.workspace.text? uri).isSome ∧ (s.changeDocument r uri changes).2 = none))
  | .closed _ => .isTrue trivial
  | .engine command => inferInstanceAs
      (Decidable ((s.follow r (s.engine.run (s.audience r) command).1).2 = none))

def runEvents (r : Resources) (s : Server) (events : List Event) : Server :=
  events.foldl (apply r) s

/-- All events succeed, one after the other. -/
def AllSucceed (r : Resources) : Server → List Event → Prop
  | _, [] => True
  | s, e :: events => s.Succeeds r e ∧ AllSucceed r (s.apply r e) events

instance (r : Resources) : ∀ (s : Server) (events : List Event), Decidable (AllSucceed r s events)
  | _, [] => .isTrue trivial
  | s, e :: events =>
    have := instDecidableAllSucceed r (s.apply r e) events
    inferInstanceAs (Decidable (s.Succeeds r e ∧ AllSucceed r (s.apply r e) events))

/-- A server whose settings have been changed before it is given any documents. -/
def configured (rules : Workspace.Rules) (settings : Settings) (pinned : Bool)
    (encoding : Encoding) (later : List Settings) : Server :=
  later.foldl configure (ofSettings settings pinned encoding rules)

/-- What the editor has done with a document. -/
inductive Handling where
  | untouched
  /-- It is open, and this is its text. -/
  | opened (text : List Char)
  | closed
deriving Repr, DecidableEq, Inhabited

/-- The handling of a document after an event. -/
def Handling.next (rules : Workspace.Rules) (encoding : Encoding) (uri : String) (h : Handling) :
    Event → Handling
  | .opened v text => if v = uri then .opened text else h
  | .changed v changes =>
    if v = uri then
      match h with
      | .opened text => .opened (changes.foldl (rules.edit encoding) text)
      | h => h
    else h
  | .closed v => if v = uri then .closed else h
  | .engine _ => h

def handlingAfter (rules : Workspace.Rules) (encoding : Encoding) (uri : String)
    (events : List Event) : Handling :=
  events.foldl (Handling.next rules encoding uri) .untouched

/-- What stands for a document is what its handling asks for. -/
def Shows (r : Resources) (s : Server) (uri : String) : Handling → Prop
  | .untouched => s.workspace.text? uri = none ∧ s.standing uri = (none, none)
  | .opened text => s.workspace.text? uri = some text ∧ Reported r s s.registry uri text
  | .closed => s.workspace.text? uri = none ∧ s.standing uri = (none, some [])

/-- What stays true of a server and a document along a run. -/
structure Fresh (r : Resources) (rules : Workspace.Rules) (encoding : Encoding) (s : Server)
    (uri : String) (h : Handling) : Prop where
  rules : s.workspace.rules = rules
  encoding : s.encoding = encoding
  announces : s.engine.client.settings.announces = true
  shows : s.Shows r uri h

section Steps
variable {r : Resources} {rules : Workspace.Rules} {encoding : Encoding} {s : Server}
variable {uri : String} {h : Handling}

theorem Shows.congr {s' : Server} (hshows : s.Shows r uri h)
    (htext : s'.workspace.text? uri = s.workspace.text? uri)
    (hencoding : s'.encoding = s.encoding)
    (hregistry : s.workspace.text? uri ≠ none → s'.registry = s.registry)
    (hstanding : s'.standing uri = s.standing uri) : s'.Shows r uri h := by
  cases h with
  | untouched => exact ⟨htext.trans hshows.1, hstanding.trans hshows.2⟩
  | opened text =>
    refine ⟨htext.trans hshows.1, ?_⟩
    rw [hregistry (by rw [hshows.1]; exact Option.some_ne_none text)]
    exact hshows.2.congr hencoding hstanding
  | closed => exact ⟨htext.trans hshows.1, hstanding.trans hshows.2⟩

/-- An open document is one that the editor has opened. -/
theorem Shows.eq_opened (hshows : s.Shows r uri h) {text : List Char}
    (htext : s.workspace.text? uri = some text) : h = .opened text := by
  cases h with
  | untouched => cases hshows.1.symm.trans htext
  | opened text' => rw [Option.some.inj (hshows.1.symm.trans htext)]
  | closed => cases hshows.1.symm.trans htext

namespace Fresh

/-- A document of which a new text is stored and validated. -/
theorem validateWith (hfresh : Fresh r rules encoding s uri h) (workspace : Workspace)
    {text : List Char} (hframe : ∃ documents, workspace = { s.workspace with documents })
    (htext : workspace.text? uri = some text)
    (hnone : (({ s with workspace } : Server).validateWith r s.registry uri).2 = none) :
    Fresh r rules encoding (({ s with workspace } : Server).validateWith r s.registry uri).1 uri
      (.opened text) := by
  obtain ⟨published, sent, heq⟩ :=
    validateWith_frame r s.registry ({ s with workspace } : Server) uri
  have hreported := reported_validateWith (s := { s with workspace }) r s.registry htext hnone
  rw [heq] at hreported ⊢
  obtain ⟨documents, rfl⟩ := hframe
  exact ⟨hfresh.rules, hfresh.encoding, hfresh.announces, htext, hreported⟩

/-- Another document is stored and validated. -/
theorem validateWith_of_ne (hfresh : Fresh r rules encoding s uri h) {v : String} (hv : v ≠ uri)
    (workspace : Workspace) (hframe : ∃ documents, workspace = { s.workspace with documents })
    (htext : workspace.text? uri = s.workspace.text? uri) :
    Fresh r rules encoding (({ s with workspace } : Server).validateWith r s.registry v).1 uri
      h := by
  obtain ⟨published, sent, heq⟩ :=
    validateWith_frame r s.registry ({ s with workspace } : Server) v
  have hstanding := validateWith_standing_of_ne r s.registry ({ s with workspace } : Server) hv
  rw [heq] at hstanding ⊢
  obtain ⟨documents, rfl⟩ := hframe
  exact ⟨hfresh.rules, hfresh.encoding, hfresh.announces,
    hfresh.shows.congr htext rfl (fun _ => rfl) hstanding⟩

theorem apply_opened (hfresh : Fresh r rules encoding s uri h) {v : String}
    (hv : v ≠ uri → rules.key v ≠ rules.key uri) {text : List Char}
    (hnone : s.Succeeds r (.opened v text)) :
    Fresh r rules encoding (s.apply r (.opened v text)) uri
      (h.next rules encoding uri (.opened v text)) := by
  change (s.openDocument r v text).2 = none at hnone
  change Fresh r rules encoding (s.openDocument r v text).1 uri
    (if v = uri then .opened text else h)
  unfold openDocument at hnone ⊢
  split at hnone
  · cases hnone
  · split
    · rename_i huri
      subst huri
      exact hfresh.validateWith _ ⟨_, rfl⟩ (Workspace.text?_openDocument_self _ _ _) hnone
    · rename_i huri
      exact hfresh.validateWith_of_ne huri _ ⟨_, rfl⟩
        (Workspace.text?_openDocument_of_ne _ (hfresh.rules ▸ hv huri) text)

theorem apply_changed (hfresh : Fresh r rules encoding s uri h) {v : String}
    (hv : v ≠ uri → rules.key v ≠ rules.key uri) {changes : List Change}
    (hnone : s.Succeeds r (.changed v changes)) :
    Fresh r rules encoding (s.apply r (.changed v changes)) uri
      (h.next rules encoding uri (.changed v changes)) := by
  obtain ⟨hopen, hnone⟩ := hnone
  obtain ⟨text, htext⟩ := Option.isSome_iff_exists.mp hopen
  obtain ⟨hdone, hchanged⟩ := Workspace.changeAll_of_open htext changes
  have hframe := s.workspace.changeAll_frame v changes
  have hothers := fun huri => s.workspace.text?_changeAll_of_ne (hfresh.rules ▸ hv huri) changes
  simp only [changeDocument] at hnone
  simp only [apply, changeDocument, Handling.next]
  cases hw : s.workspace.changeAll v changes with
  | mk workspace done =>
    rw [hw] at hdone hchanged hframe hothers hnone
    change done = true at hdone
    subst hdone
    simp only
    split
    · rename_i huri
      subst huri
      obtain rfl := hfresh.shows.eq_opened htext
      have hunits : s.workspace.encoding = encoding := hfresh.encoding
      rw [hunits, hfresh.rules] at hchanged
      exact hfresh.validateWith workspace hframe hchanged hnone
    · rename_i huri
      exact hfresh.validateWith_of_ne huri workspace hframe (hothers huri)

theorem apply_closed (hfresh : Fresh r rules encoding s uri h) {v : String}
    (hv : v ≠ uri → rules.key v ≠ rules.key uri) :
    Fresh r rules encoding (s.apply r (.closed v)) uri (h.next rules encoding uri (.closed v)) := by
  refine ⟨hfresh.rules, hfresh.encoding, hfresh.announces, ?_⟩
  simp only [apply, closeDocument, Handling.next]
  split
  · rename_i huri
    subst huri
    refine ⟨Workspace.text?_closeDocument_self _ _, ?_⟩
    simp only [standing, lastSent?_send, Notification.diagnosticsFor?, if_true, Option.some_or]
    exact congrArg (·, _) (s.published.get?_drop_self v)
  · rename_i huri
    refine hfresh.shows.congr (Workspace.text?_closeDocument_of_ne _ (hfresh.rules ▸ hv huri)) rfl
      (fun _ => rfl) ?_
    simp only [standing, lastSent?_send, Notification.diagnosticsFor?, if_neg huri, Option.none_or]
    exact congrArg (·, _) (s.published.get?_drop_of_ne huri)

/-- The engine goes on. The document is validated once for every change that is told, and the last
change tells of the registry that the server has in the end. -/
theorem follow (hfresh : Fresh r rules encoding s uri h) (hkey : rules.key uri = uri)
    {engine : Simulation} (htold : s.engine.Told engine) (hnone : (s.follow r engine).2 = none) :
    Fresh r rules encoding (s.follow r engine).1 uri h := by
  obtain ⟨log, hfollow⟩ := follow_eq r s engine
  generalize hchanges : engine.announced.drop s.engine.announced.length = changes at hfollow
  rw [hfollow] at hnone ⊢
  obtain ⟨published, sent, heq⟩ := revalidateFor_frame r ({ s with engine, log } : Server) changes
  refine ⟨by rw [heq]; exact hfresh.rules, by rw [heq]; exact hfresh.encoding, ?_, ?_⟩
  · rw [heq]
    change engine.client.settings.announces = true
    rw [htold.settings]
    exact hfresh.announces
  rcases List.eq_nil_or_concat' changes with rfl | ⟨early, change, rfl⟩
  · have hregistry := htold.registry_of_drop_nil hfresh.announces hchanges
    exact hfresh.shows.congr rfl rfl (fun _ => hregistry) rfl
  have hkeys := s.workspace.mem_keys_iff uri
  rw [hfresh.rules, hkey] at hkeys
  cases htext : s.workspace.text? uri with
  | none =>
    have huri : uri ∉ s.workspace.keys := by simp [hkeys, htext]
    refine hfresh.shows.congr (by rw [heq]) (by rw [heq]; rfl) (fun hopen => absurd htext hopen) ?_
    exact revalidateFor_standing_of_notMem (s := { s with engine, log }) r huri _
  | some text =>
    obtain rfl := hfresh.shows.eq_opened htext
    have huri : uri ∈ s.workspace.keys := by simp [hkeys, htext]
    have hreported := reported_revalidateFor (s := { s with engine, log }) r htext huri early change
      hnone
    have hlast : ({ s with engine, log } : Server).registryFor change.1 change.2 =
        engine.client.registry := by
      unfold registryFor
      split
      · rename_i hplace
        exact (htold.registry_of_drop_concat hfresh.announces hchanges hplace).symm
      · rfl
    rw [hlast] at hreported
    rw [heq] at hreported ⊢
    exact ⟨htext, hreported⟩

theorem apply_engine (hfresh : Fresh r rules encoding s uri h) (hkey : rules.key uri = uri)
    {command : Command} (hnone : s.Succeeds r (.engine command)) :
    Fresh r rules encoding (s.apply r (.engine command)) uri h := by
  have hrun : s.apply r (.engine command) =
      (s.follow r (s.engine.run (s.audience r) command).1).1 := by
    simp only [apply, runEngine]
    split <;> rfl
  rw [hrun]
  exact hfresh.follow hkey (.run (s.audience r) s.engine command) hnone

end Fresh

end Steps

/-- Events name a document only as the workspace does. -/
structure NamedPlainly (rules : Workspace.Rules) (uri : String) (events : List Event) : Prop where
  key : rules.key uri = uri
  only : ∀ e ∈ events, ∀ v, e.uri? = some v → rules.key v = uri → v = uri

namespace Fresh

variable {r : Resources} {rules : Workspace.Rules} {encoding : Encoding} {s : Server}
variable {uri : String} {h : Handling}

/-- One event that succeeds. -/
theorem apply {e : Event} (hfresh : Fresh r rules encoding s uri h)
    (hnamed : NamedPlainly rules uri [e]) (hsucceeds : s.Succeeds r e) :
    Fresh r rules encoding (s.apply r e) uri (h.next rules encoding uri e) := by
  have hv : ∀ v, e.uri? = some v → v ≠ uri → rules.key v ≠ rules.key uri := by
    intro v he hne heq
    rw [hnamed.key] at heq
    exact hne (hnamed.only e List.mem_cons_self v he heq)
  cases e with
  | opened v text => exact hfresh.apply_opened (hv v rfl) hsucceeds
  | changed v changes => exact hfresh.apply_changed (hv v rfl) hsucceeds
  | closed v => exact hfresh.apply_closed (hv v rfl)
  | engine command => exact hfresh.apply_engine hnamed.key hsucceeds

/-- A whole run of events that succeed. -/
theorem run {events : List Event} (hfresh : Fresh r rules encoding s uri h)
    (hnamed : NamedPlainly rules uri events) (hsucceed : AllSucceed r s events) :
    Fresh r rules encoding (s.runEvents r events) uri
      (events.foldl (Handling.next rules encoding uri) h) := by
  induction events generalizing s h with
  | nil => exact hfresh
  | cons e events ih =>
    have hfirst : NamedPlainly rules uri [e] :=
      ⟨hnamed.key, fun e' he' => hnamed.only e' (List.mem_cons.mpr (Or.inl (by simpa using he')))⟩
    have hlater : NamedPlainly rules uri events :=
      ⟨hnamed.key, fun e' he' => hnamed.only e' (List.mem_cons_of_mem e he')⟩
    exact ih (hfresh.apply hfirst hsucceed.1) hlater hsucceed.2

end Fresh

/-- A server without documents. -/
theorem fresh_configured (r : Resources) (rules : Workspace.Rules) (settings : Settings)
    (pinned : Bool) (encoding : Encoding) (later : List Settings) (uri : String) :
    Fresh r rules encoding (configured rules settings pinned encoding later) uri .untouched := by
  have hlater : ∀ (later : List Settings) (s : Server), Fresh r rules encoding s uri .untouched →
      Fresh r rules encoding (later.foldl configure s) uri .untouched := by
    intro later
    induction later with
    | nil => exact fun s hfresh => hfresh
    | cons settings later ih =>
      intro s hfresh
      obtain ⟨_, hsent⟩ := Prod.mk.inj hfresh.shows.2
      exact ih _ ⟨hfresh.rules, hfresh.encoding, rfl, hfresh.shows.1, Prod.ext rfl hsent⟩
  exact hlater later _ ⟨rfl, rfl, rfl, rfl, rfl⟩

/-- After any events that succeed, a document that is named only as the workspace names it and that
is open has the report of its text under the registry that the server has then: it is published, and
its diagnostics were the last to be sent. For a document that has been closed nothing is published,
and the last to be sent were no diagnostics. In a workspace that stores every document under its own
URI, this goes for all documents. -/
theorem runEvents_fresh_of_namedPlainly (r : Resources) (rules : Workspace.Rules)
    (settings : Settings) (pinned : Bool) (encoding : Encoding) (later : List Settings)
    (events : List Event) (uri : String)
    (hnamed : NamedPlainly rules uri events ∨ ∀ v, rules.key v = v)
    (hsucceed : AllSucceed r (configured rules settings pinned encoding later) events) :
    let s := (configured rules settings pinned encoding later).runEvents r events
    (∀ text, handlingAfter rules encoding uri events = .opened text →
      s.workspace.text? uri = some text ∧
      ∃ report, validate (parseWith r.parser) ⟨text, encoding, s.registry⟩ = .ok report ∧
        s.published.get? uri = some report ∧ s.lastSent? uri = some report.diagnostics) ∧
    (handlingAfter rules encoding uri events = .closed →
      s.workspace.text? uri = none ∧ s.published.get? uri = none ∧ s.lastSent? uri = some []) ∧
    (handlingAfter rules encoding uri events = .untouched →
      s.workspace.text? uri = none ∧ s.published.get? uri = none ∧ s.lastSent? uri = none) := by
  intro s
  have hplain : NamedPlainly rules uri events := by
    rcases hnamed with hnamed | hkeys
    · exact hnamed
    · exact ⟨hkeys uri, fun _ _ v _ hv => (hkeys v).symm.trans hv⟩
  have hfresh : Fresh r rules encoding s uri (handlingAfter rules encoding uri events) :=
    (fresh_configured r rules settings pinned encoding later uri).run hplain hsucceed
  have hshows := hfresh.shows
  refine ⟨?_, ?_, ?_⟩
  · intro text htext
    rw [htext] at hshows
    obtain ⟨hopen, report, hreport, hstanding⟩ := hshows
    rw [hfresh.encoding] at hreport
    exact ⟨hopen, report, hreport, Prod.mk.inj hstanding⟩
  · intro hclosed
    rw [hclosed] at hshows
    exact ⟨hshows.1, Prod.mk.inj hshows.2⟩
  · intro huntouched
    rw [huntouched] at hshows
    exact ⟨hshows.1, Prod.mk.inj hshows.2⟩

/-- A parser that cannot be reached, and no files. -/
def noResources : Resources := ⟨fun _ => .error (.unavailable ""), fun _ => .error .missing⟩

/-- The engine tells of a sample that is not in the vocabulary yet. -/
def newSample : Event :=
  .engine (.message [("type", .text "samples"), ("samples", .list [.text "zz1"])])

/-- A document is opened that uses an unknown sample, and the engine then tells of that sample. -/
theorem runEvents_fresh_of_namedPlainly_sample :
    let events := [Event.opened "file:///a" "s(\"zz1\")".toList, newSample]
    let start := configured .decoding default true .utf16 []
    let s := start.runEvents noResources events
    NamedPlainly .decoding "file:///a" events ∧ AllSucceed noResources start events ∧
      s.workspace.text? "file:///a" = some "s(\"zz1\")".toList ∧
      s.published.get? "file:///a" = some ⟨[], []⟩ ∧ s.lastSent? "file:///a" = some [] := by
  intro events start s
  have hnamed : NamedPlainly .decoding "file:///a" events := by
    refine ⟨by decide +kernel, ?_⟩
    intro e he v hv _
    rcases List.mem_pair.mp he with rfl | rfl
    · exact (Option.some.inj hv).symm
    · cases hv
  have hsucceed : AllSucceed noResources start events := by decide +kernel
  obtain ⟨hopen, _⟩ := runEvents_fresh_of_namedPlainly noResources .decoding default true .utf16 []
    events "file:///a" (Or.inl hnamed) hsucceed
  obtain ⟨htext, report, hreport, hpublished, hsent⟩ :=
    hopen "s(\"zz1\")".toList (by decide +kernel)
  have hempty : validate (parseWith noResources.parser)
      ⟨"s(\"zz1\")".toList, .utf16, s.registry⟩ = .ok ⟨[], []⟩ := by decide +kernel
  obtain rfl : report = ⟨[], []⟩ := Except.ok.inj (hreport.symm.trans hempty)
  exact ⟨hnamed, hsucceed, htext, hpublished, hsent⟩

/-- In a workspace that takes escapes out of names, the same document under a name with an escape
keeps the diagnostics from before. -/
theorem runEvents_stale_escaped :
    let events := [Event.opened "file:///b%20c" "s(\"zz1\")".toList, newSample]
    let start := configured .decoding default true .utf16 []
    let s := start.runEvents noResources events
    AllSucceed noResources start events ∧
      s.workspace.text? "file:///b%20c" = some "s(\"zz1\")".toList ∧
      validate (parseWith noResources.parser) ⟨"s(\"zz1\")".toList, .utf16, s.registry⟩ =
        .ok ⟨[], []⟩ ∧
      (s.published.get? "file:///b%20c").map (·.diagnostics.length) = some 1 ∧
      (s.lastSent? "file:///b%20c").map (·.length) = some 1 := by
  decide +kernel

end PatternServer.Server
