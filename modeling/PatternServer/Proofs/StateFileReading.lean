import PatternServer.Proofs.JsonGrammar
import PatternServer.Proofs.StateFileWatch
import PatternServer.Proofs.Utf8Decoding

/-!
# What a state file tells

A state file tells of an engine if it is the UTF-8 text of a JSON table with two whole numbers, its
port and its process. Files in which something else stands for such a number pass for one as well,
as do those with a name in them that JSON does not have; all others tell of none. There is one
exception: a file that is no text at all is not taken for one that tells of nothing, but fails. A
look at the file that meets such a content has already noted the signature, so that the change is
reported neither then nor at any later look.
-/

namespace PatternServer.Engine

set_option autoImplicit false

open PatternServer.Data PatternServer.Text PatternServer.Number

/-- The bytes are the text of a JSON table with a port and a process. -/
def Holds (known : List (String × Value)) (bytes : List UInt8) (port pid : Value) : Prop :=
  ∃ text fields, bytes = text.flatMap String.utf8EncodeChar ∧
    Json.Spelled Json.strict known (unifyLineEnds text) (.table fields) ∧
    Value.lookup "port" fields = some port ∧ Value.lookup "pid" fields = some pid

/-- What an engine writes: the table with two whole numbers. -/
def TellsOf (bytes : List UInt8) (d : Descriptor) : Prop :=
  Holds Json.formatNames bytes (.int d.port) (.int d.pid)

/-- What is taken for a whole number. -/
inductive TakenFor : Value → Int → Prop where
  | whole (n : Int) : TakenFor (.int n) n
  | truth (b : Bool) : TakenFor (.bool b) (if b then 1 else 0)
  | real {x : Double} {n : Int} (h : realInt? x = some n) : TakenFor (.real x) n
  | text {s : String} {n : Int} (h : readIntText? s.toList = some n) : TakenFor (.text s) n

/-- What is taken for the file of an engine. Other values may stand for the whole numbers, and other
names may occur than JSON has. -/
def PassesFor (bytes : List UInt8) (d : Descriptor) : Prop :=
  ∃ port pid, Holds Json.names bytes port pid ∧ TakenFor port d.port ∧ TakenFor pid d.pid

theorem Holds.mono {known known' : List (String × Value)} (hknown : known ⊆ known')
    {bytes : List UInt8} {port pid : Value} (h : Holds known bytes port pid) :
    Holds known' bytes port pid := by
  obtain ⟨text, fields, hbytes, hspelled, hfields⟩ := h
  exact ⟨text, fields, hbytes, hspelled.mono hknown, hfields⟩

theorem TellsOf.passesFor {bytes : List UInt8} {d : Descriptor} (h : TellsOf bytes d) :
    PassesFor bytes d :=
  ⟨_, _, h.mono Json.formatNames_subset, .whole d.port, .whole d.pid⟩

theorem asInt?_eq_some_iff {v : Value} {n : Int} : v.asInt? = some n ↔ TakenFor v n := by
  constructor
  · intro h
    cases v with
    | int m =>
      cases h
      exact .whole _
    | bool b =>
      cases h
      exact .truth b
    | real x => exact .real h
    | text s => exact .text h
    | null | moment _ | list _ | table _ => cases h
  · intro h
    cases h with
    | whole n => rfl
    | truth b => rfl
    | real h => exact h
    | text h => exact h

theorem field?_eq_some_iff {α : Type} {fields : List (String × Value)} {key : String}
    {read : Value → Option α} {a : α} :
    Value.field? fields key none read = some a ↔
      ∃ v, Value.lookup key fields = some v ∧ read v = some a := by
  unfold Value.field?
  cases Value.lookup key fields with
  | none => simp
  | some v => simp

theorem ofValue?_eq_some_iff {v : Value} {d : Descriptor} :
    Descriptor.ofValue? v = some d ↔
      ∃ fields port pid, v = .table fields ∧
        (Value.lookup "port" fields = some port ∧ Value.lookup "pid" fields = some pid) ∧
        TakenFor port d.port ∧ TakenFor pid d.pid := by
  simp only [← asInt?_eq_some_iff]
  constructor
  · intro h
    obtain ⟨fields, hfields, h⟩ := Option.bind_eq_some_iff.mp h
    obtain ⟨n, hn, h⟩ := Option.bind_eq_some_iff.mp h
    obtain ⟨m, hm, h⟩ := Option.bind_eq_some_iff.mp h
    obtain ⟨port, hport, hn⟩ := field?_eq_some_iff.mp hn
    obtain ⟨pid, hpid, hm⟩ := field?_eq_some_iff.mp hm
    cases h
    refine ⟨fields, port, pid, ?_, ⟨hport, hpid⟩, hn, hm⟩
    cases v <;> cases hfields
    rfl
  · rintro ⟨fields, port, pid, rfl, ⟨hport, hpid⟩, hn, hm⟩
    rw [Descriptor.ofValue?]
    simp [Value.asTable?, field?_eq_some_iff.mpr ⟨port, hport, hn⟩,
      field?_eq_some_iff.mpr ⟨pid, hpid, hm⟩]

theorem readState_text (text : List Char) :
    readState (some (text.flatMap String.utf8EncodeChar)) =
      .ok ((Json.read Json.strict (unifyLineEnds text)).toOption.bind Descriptor.ofValue?) := by
  simp only [readState, Utf8.decode?_eq_some_iff.mpr rfl]

theorem readState_not_text {bytes : List UInt8}
    (h : ¬ ∃ text : List Char, bytes = text.flatMap String.utf8EncodeChar) :
    readState (some bytes) = .error .notText := by
  simp only [readState, Utf8.decode?_eq_none_iff.mpr h]

/-- Reading fails with exactly the contents that are no text. -/
theorem readState_eq_error_iff (content : Option (List UInt8)) :
    readState content = .error .notText ↔
      ∃ bytes, content = some bytes ∧
        ¬ ∃ text : List Char, bytes = text.flatMap String.utf8EncodeChar := by
  constructor
  · intro h
    cases content with
    | none => cases h
    | some bytes =>
      refine ⟨bytes, rfl, ?_⟩
      rintro ⟨text, rfl⟩
      rw [readState_text] at h
      cases h
  · rintro ⟨bytes, rfl, hbytes⟩
    exact readState_not_text hbytes

theorem readState_eq_some_iff (content : Option (List UInt8)) (d : Descriptor) :
    readState content = .ok (some d) ↔ ∃ bytes, content = some bytes ∧ PassesFor bytes d := by
  constructor
  · intro h
    cases content with
    | none => cases h
    | some bytes =>
      by_cases htext : ∃ text : List Char, bytes = text.flatMap String.utf8EncodeChar
      · obtain ⟨text, rfl⟩ := htext
        rw [readState_text, Except.ok.injEq] at h
        cases hread : Json.read Json.strict (unifyLineEnds text) with
        | error e =>
          rw [hread] at h
          cases h
        | ok v =>
          rw [hread] at h
          obtain ⟨fields, port, pid, rfl, hfields, htaken⟩ := ofValue?_eq_some_iff.mp h
          have hspelled := (Json.read_eq_ok_iff _ _ _).mp hread
          exact ⟨_, rfl, port, pid, ⟨text, fields, rfl, hspelled, hfields⟩, htaken⟩
      · rw [readState_not_text htext] at h
        cases h
  · rintro ⟨_, rfl, port, pid, ⟨text, fields, rfl, hspelled, hfields⟩, htaken⟩
    rw [readState_text, (Json.read_eq_ok_iff _ _ _).mpr hspelled]
    exact congrArg Except.ok (ofValue?_eq_some_iff.mpr ⟨fields, port, pid, rfl, hfields, htaken⟩)

namespace Watcher

/-- The reports of looks that follow each other. Each look finds a signature and, if it gets so far,
a content. -/
def reports (w : Watcher) : List FileState → List Report
  | [] => []
  | v :: looks =>
    let r := w.poll v.signature v.content
    r.2 :: r.1.reports looks

/-- What a report passes on. -/
def Report.passedOn : Report → List (Option Descriptor)
  | .changed d => [d]
  | .unchanged | .unreadable => []

def Report.failure? : Report → Option StateFileError
  | .unreadable => some .notText
  | .unchanged | .changed _ => none

/-- What a look reports that follows one with the signature `last`. -/
def reportAfter (last : Option Signature) (v : FileState) : Report :=
  if v.signature = last then .unchanged
  else if v.IsText then .changed v.engine
  else .unreadable

theorem poll_running {w : Watcher} (h : w.stopped = false) (v : FileState) :
    (w.poll v.signature v.content).2 = reportAfter w.last v ∧
      (w.poll v.signature v.content).1.last = v.signature ∧
      (w.poll v.signature v.content).1.stopped = false := by
  unfold poll reportAfter
  rw [if_neg (by simp [h])]
  split
  · rename_i hsame
    exact ⟨rfl, hsame.symm, h⟩
  · refine ⟨?_, rfl, h⟩
    by_cases htext : v.IsText
    · rw [if_pos htext, FileState.readState_of_isText htext]
    · rw [if_neg htext, FileState.readState_of_not_isText htext]

theorem reports_running {w : Watcher} (h : w.stopped = false) (looks : List FileState) :
    w.reports looks =
      List.zipWith reportAfter (w.last :: looks.map FileState.signature) looks := by
  induction looks generalizing w with
  | nil => rfl
  | cons v looks ih =>
    obtain ⟨hreport, hlast, hstopped⟩ := poll_running h v
    rw [reports, hreport, ih hstopped, hlast]
    rfl

end Watcher

namespace Lookout

theorem receive_seen (l : Lookout) (d : Option Descriptor) :
    (l.receive d).seen = l.seen ++ [d] := by
  simp only [receive]
  split <;> rfl

theorem stop_last {l : Lookout} {k : Nat} {w : Watcher} (h : l.watchers[k]? = some w) :
    ∃ w', l.stop.watchers[k]? = some w' ∧ w'.last = w.last := by
  simp only [stop, List.getElem?_modify, h]
  split
  · exact ⟨w.stop, rfl, rfl⟩
  · exact ⟨w, rfl, rfl⟩

theorem receive_last {l : Lookout} {k : Nat} {w : Watcher} (h : l.watchers[k]? = some w)
    (d : Option Descriptor) :
    ∃ w', (l.receive d).watchers[k]? = some w' ∧ w'.last = w.last := by
  simp only [receive]
  split
  · exact stop_last (l := { l with seen := l.seen ++ [d] }) h
  · exact ⟨w, h, rfl⟩

/-- A report on its way to the receiver. -/
def deliver (l : Lookout) : Watcher.Report → Lookout × Option StateFileError
  | .unchanged => (l, none)
  | .changed d => (l.receive d, none)
  | .unreadable => (l, some .notText)

theorem deliver_eq (l : Lookout) (report : Watcher.Report) :
    (l.deliver report).1.seen = l.seen ++ report.passedOn ∧
      (l.deliver report).2 = report.failure? := by
  cases report with
  | unchanged => exact ⟨(List.append_nil _).symm, rfl⟩
  | changed d => exact ⟨receive_seen l d, rfl⟩
  | unreadable => exact ⟨(List.append_nil _).symm, rfl⟩

theorem deliver_last {l : Lookout} {k : Nat} {w : Watcher} (h : l.watchers[k]? = some w)
    (report : Watcher.Report) :
    ∃ w', (l.deliver report).1.watchers[k]? = some w' ∧ w'.last = w.last := by
  cases report with
  | unchanged => exact ⟨w, h, rfl⟩
  | changed d => exact receive_last h d
  | unreadable => exact ⟨w, h, rfl⟩

/-- A look is a delivery of its report; all that it does besides is to plan another look. -/
theorem pollOne_deliver {l : Lookout} {k : Nat} {w : Watcher} (hw : l.watchers[k]? = some w) :
    let v := FileState.ofVersion l.file
    let r := w.poll v.signature v.content
    let delivered := deliver { l with watchers := l.watchers.set k r.1 } r.2
    (l.pollOne k).1.seen = delivered.1.seen ∧ (l.pollOne k).1.watchers = delivered.1.watchers ∧
      (l.pollOne k).2 = delivered.2 := by
  intro v r delivered
  have heq : l.pollOne k =
      if (delivered.1.watchers[k]?).any (·.armed) then
        ({ delivered.1 with delays := delivered.1.delays ++ [w.interval] }, delivered.2)
      else delivered := by
    simp only [pollOne, hw]
    rfl
  rw [heq]
  split <;> exact ⟨rfl, rfl, rfl⟩

/-- One look passes its report on once, whatever the receiver does, or fails. The signature is noted
in any case. -/
theorem pollOne_running {l : Lookout} {k : Nat} {w : Watcher} (hw : l.watchers[k]? = some w)
    (hrunning : w.stopped = false) :
    let v := FileState.ofVersion l.file
    let report := Watcher.reportAfter w.last v
    (l.pollOne k).1.seen = l.seen ++ report.passedOn ∧ (l.pollOne k).2 = report.failure? ∧
      ∃ w', (l.pollOne k).1.watchers[k]? = some w' ∧ w'.last = v.signature := by
  intro v report
  obtain ⟨hreport, hlast, _⟩ := Watcher.poll_running hrunning v
  obtain ⟨hseen, hwatchers, hfailure⟩ := pollOne_deliver hw
  have hk : k < l.watchers.length := (List.getElem?_eq_some_iff.mp hw).1
  have hset : (l.watchers.set k (w.poll v.signature v.content).1)[k]? =
      some (w.poll v.signature v.content).1 := List.getElem?_set_self hk
  obtain ⟨w', hw', hlast'⟩ := deliver_last
    (l := { l with watchers := l.watchers.set k (w.poll v.signature v.content).1 }) hset
    (w.poll v.signature v.content).2
  rw [hseen, hwatchers, hfailure, (deliver_eq _ _).1, (deliver_eq _ _).2, hreport]
  exact ⟨rfl, rfl, w', hreport ▸ hw', hlast'.trans hlast⟩

end Lookout

/-- The state file and its looks. Reading fails with the contents that are no text and tells of an
engine with those that pass for a description of one, as every description does; with all others it
tells of none. -/
theorem state_file_reports (content : Option (List UInt8)) (d : Descriptor) (interval : Double)
    (base : Option Signature) (looks : List FileState) (l : Lookout) (k : Nat) :
    (readState content = .error .notText ↔
      ∃ bytes, content = some bytes ∧
        ¬ ∃ text : List Char, bytes = text.flatMap String.utf8EncodeChar) ∧
    (readState content = .ok (some d) ↔ ∃ bytes, content = some bytes ∧ PassesFor bytes d) ∧
    (∀ bytes, TellsOf bytes d → readState (some bytes) = .ok (some d)) ∧
    (Watcher.start interval base).reports looks =
      List.zipWith Watcher.reportAfter (base :: looks.map FileState.signature) looks ∧
    ∀ w, l.watchers[k]? = some w → w.stopped = false →
      (l.pollOne k).1.seen =
          l.seen ++ (Watcher.reportAfter w.last (.ofVersion l.file)).passedOn ∧
        (l.pollOne k).2 = (Watcher.reportAfter w.last (.ofVersion l.file)).failure? ∧
        ∃ w', (l.pollOne k).1.watchers[k]? = some w' ∧
          w'.last = (FileState.ofVersion l.file).signature := by
  refine ⟨readState_eq_error_iff content, readState_eq_some_iff content d, ?_,
    Watcher.reports_running rfl looks, ?_⟩
  · intro bytes htells
    exact (readState_eq_some_iff _ d).mpr ⟨bytes, rfl, htells.passesFor⟩
  · intro w hw hrunning
    exact Lookout.pollOne_running hw hrunning

/-- An engine writes its file while a watcher is at work. -/
theorem state_file_reports_engine :
    let file : FileVersion := ⟨Utf8.encode "\x7b\"port\":1,\"pid\":2\x7d", 1⟩
    let l := (Lookout.empty.watch default).write file
    TellsOf file.content ⟨1, 2⟩ ∧ readState (some file.content) = .ok (some ⟨1, 2⟩) ∧
      (l.pollOne 0).1.seen = [some ⟨1, 2⟩] := by
  intro file l
  have hport : Json.Number Json.strict false (.int 1) "1,\"pid\":2\x7d".toList
      ",\"pid\":2\x7d".toList := Json.number_of_readNumber rfl
  have hpid : Json.Number Json.strict false (.int 2) "2\x7d".toList "\x7d".toList :=
    Json.number_of_readNumber rfl
  have hblank : ∀ s, Json.Blank s s := fun s => ⟨[], rfl, by simp⟩
  have hentries : Json.Spells Json.strict Json.formatNames 199
      (.entries [("port", .int 1), ("pid", .int 2)]) "\"port\":1,\"pid\":2\x7d".toList [] :=
    .entry (hblank _) (Json.readString_eq_ok_iff.mp rfl) (hblank _) (hblank _) (.number hport)
      (hblank _) (.lastEntry (hblank _) (Json.readString_eq_ok_iff.mp rfl) (hblank _) (hblank _)
        (.number hpid) (hblank _))
  have htells : TellsOf file.content ⟨1, 2⟩ :=
    ⟨"\x7b\"port\":1,\"pid\":2\x7d".toList, _, by decide +kernel,
      ⟨_, [], hblank _, .table hentries, hblank _⟩, rfl, rfl⟩
  obtain ⟨_, _, hread, _, hlook⟩ :=
    state_file_reports (some file.content) ⟨1, 2⟩ default none [] l 0
  refine ⟨htells, hread _ htells, ?_⟩
  rw [(hlook _ rfl rfl).1]
  decide +kernel

/-- A byte that begins no character: the change is never reported, although the file is there at
every look. A file with a text and a truth value is taken for that of an engine. -/
theorem state_file_reports_garbled :
    readState (some [0xff]) = .error .notText ∧
      (Watcher.start default none).reports [garbledFile 1, garbledFile 1, garbledFile 1] =
        [.unreadable, .unchanged, .unchanged] ∧
      let text := "\x7b\"port\":\"4000\",\"pid\":true\x7d".toList
      readState (some (text.flatMap String.utf8EncodeChar)) = .ok (some ⟨4000, 1⟩) ∧
        ∀ d, ¬ TellsOf (text.flatMap String.utf8EncodeChar) d := by
  refine ⟨by decide +kernel, by decide +kernel, by decide +kernel, ?_⟩
  rintro d ⟨text, fields, htext, hspelled, hport, _⟩
  have hread := (Json.read_eq_ok_iff _ _ _).mpr (hspelled.mono Json.formatNames_subset)
  have htaken : (Json.read Json.strict (unifyLineEnds
      "\x7b\"port\":\"4000\",\"pid\":true\x7d".toList)).toOption.bind
        (fun v => (v.get? "port").bind Value.asText?) = some "4000" := by decide +kernel
  rw [Utf8.flatMap_encode_injective htext, hread] at htaken
  simp [Value.get?, hport, Value.asText?, Except.toOption] at htaken

end PatternServer.Engine
