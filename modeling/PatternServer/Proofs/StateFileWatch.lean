import Mathlib.Data.List.Induction
import PatternServer.Engine.Watcher
import PatternServer.Proofs.LatestReport

/-!
# Following the state file

A client reads the state file when it starts, and its watcher then takes the signature that later
looks are compared with. Every look takes the signature first and the content, if it is another one,
after it. Each of these is an access of its own, and the file may change between any two of them.

`Followed` is such a course of accesses to a history of the file in which no two versions share a
signature, with the file as the last look has seen it. The descriptor that the client was given last
is then either the one that its start has read, or the one that was read at the last look at which
the signature had changed. Whether it is the one of the present version hangs on what the file was
at that single reading.

A start that reads no text, or the number of a process that nobody can ask for, fails before
anything is watched.
-/

namespace PatternServer.Engine

set_option autoImplicit false

open PatternServer.Number PatternServer.Text

/-- What the state file is at a moment: its signature, none if there is no file to look at, and its
content, none if it cannot be read. -/
structure FileState where
  signature : Option Signature
  content : Option (List UInt8)
deriving DecidableEq

namespace FileState

def ofVersion (file : Option FileVersion) : FileState :=
  ⟨file.map FileVersion.signature, file.map (·.content)⟩

/-- The engine that the file tells of. One that is no text tells of none. -/
def engine (v : FileState) : Option Descriptor :=
  match readState v.content with
  | .ok d => d
  | .error .notText => none

/-- The file is missing or holds text. -/
def IsText (v : FileState) : Prop :=
  v.content.all (fun bytes => (Utf8.decode? bytes).isSome) = true

instance (v : FileState) : Decidable v.IsText := inferInstanceAs (Decidable (_ = true))

theorem readState_of_isText {v : FileState} (h : v.IsText) :
    readState v.content = .ok v.engine := by
  unfold engine
  cases hread : readState v.content with
  | ok d => rfl
  | error e =>
    obtain ⟨signature, _ | bytes⟩ := v
    · cases hread
    · obtain ⟨text, htext⟩ := Option.isSome_iff_exists.mp h
      simp [readState, htext] at hread

theorem readState_of_not_isText {v : FileState} (h : ¬ v.IsText) :
    readState v.content = .error .notText := by
  obtain ⟨signature, _ | bytes⟩ := v
  · exact absurd rfl h
  · have hnone : Utf8.decode? bytes = none := by simpa [IsText] using h
    simp only [readState, hnone]

end FileState

abbrev History := Nat → FileState

def ClientEvent.handed? : ClientEvent → Option (Option Descriptor)
  | .start d _ => some d
  | .discover _ d _ => some d
  | _ => none

/-- The descriptor that a client was given last. -/
def handed (past : List ClientEvent) : Option (Option Descriptor) :=
  past.foldl (fun last e => e.handed?.or last) none

@[simp] theorem handed_snoc (past : List ClientEvent) (e : ClientEvent) :
    handed (past ++ [e]) = e.handed?.or (handed past) := by
  simp [handed]

/-- A client that has been started, by what has happened to it since, and its watcher. -/
structure Follower where
  watcher : Watcher
  past : List ClientEvent

/-- Something that happens to a client and its watcher: a look that takes the signature at moment
`i` and reads the content, if it does, at moment `j`, or something that comes of timers and
sessions. -/
inductive Happening where
  | look (now : Double) (probe : Int → Probe) (i j : Nat)
  | own (e : ClientEvent) (h : e.isSpontaneous = true)

namespace Happening

def seen? : Happening → Option Nat
  | look _ _ i _ => some i
  | own _ _ => none

def moments : Happening → List Nat
  | look _ _ i j => [i, j]
  | own _ _ => []

end Happening

/-- Why a client cannot be started. -/
inductive StartError where
  | notText
  /-- It cannot be told whether the engine runs. -/
  | unknown
deriving DecidableEq

namespace Follower

/-- The start of a client with an access to the content, and after it one to the signature. -/
def start (settings : ClientSettings) (probe : Int → Probe) (content : Option (List UInt8))
    (signature : Option Signature) : Except StartError Follower :=
  match readState content with
  | .error .notText => .error .notText
  | .ok d =>
    if liveness probe d = .unknown then .error .unknown
    else .ok ⟨Watcher.start settings.pollInterval signature, [.start d (liveness probe d)]⟩

def look (f : Follower) (now : Double) (probe : Int → Probe) (signature : Option Signature)
    (content : Option (List UInt8)) : Follower :=
  let r := f.watcher.poll signature content
  match r.2 with
  | .changed d => ⟨r.1, f.past ++ [.discover now d (liveness probe d)]⟩
  | .unchanged | .unreadable => ⟨r.1, f.past⟩

def step (history : History) (f : Follower) : Happening → Follower
  | .look now probe i j => f.look now probe (history i).signature (history j).content
  | .own e _ => { f with past := f.past ++ [e] }

def run (history : History) (f : Follower) (happenings : List Happening) : Follower :=
  happenings.foldl (step history) f

@[simp] theorem run_snoc (history : History) (f : Follower) (happenings : List Happening)
    (e : Happening) :
    f.run history (happenings ++ [e]) = (f.run history happenings).step history e := by
  simp [run]

/-- A start succeeds exactly if it reads a text, and it can be told whether the engine of this text
runs. -/
theorem start_eq_ok_iff (settings : ClientSettings) (probe : Int → Probe) (v : FileState)
    (signature : Option Signature) (f : Follower) :
    start settings probe v.content signature = .ok f ↔
      v.IsText ∧ liveness probe v.engine ≠ .unknown ∧
        f = ⟨Watcher.start settings.pollInterval signature,
          [.start v.engine (liveness probe v.engine)]⟩ := by
  unfold start
  by_cases htext : v.IsText
  · rw [FileState.readState_of_isText htext]
    by_cases hknown : liveness probe v.engine = .unknown
    · simp [hknown]
    · simp [hknown, htext, eq_comm]
  · rw [FileState.readState_of_not_isText htext]
    simp [htext]

/-! What one look does. -/

theorem look_of_eq {f : Follower} (hlive : f.watcher.stopped = false) (now : Double)
    (probe : Int → Probe) {signature : Option Signature} (content : Option (List UInt8))
    (hsame : signature = f.watcher.last) :
    f.look now probe signature content = ⟨{ f.watcher with armed := true }, f.past⟩ := by
  simp [look, Watcher.poll, hlive, hsame]

theorem look_of_ne {f : Follower} (hlive : f.watcher.stopped = false) (now : Double)
    (probe : Int → Probe) {signature : Option Signature} (v : FileState)
    (hother : signature ≠ f.watcher.last) :
    (f.look now probe signature v.content).watcher =
        { f.watcher with last := signature, armed := true } ∧
      (v.IsText → handed (f.look now probe signature v.content).past = some v.engine) ∧
      (¬ v.IsText → handed (f.look now probe signature v.content).past = handed f.past) := by
  by_cases htext : v.IsText
  · simp [look, Watcher.poll, hlive, hother, FileState.readState_of_isText htext, htext,
      ClientEvent.handed?]
  · simp [look, Watcher.poll, hlive, hother, FileState.readState_of_not_isText htext, htext]

theorem handed_step_own (history : History) (f : Follower) {e : ClientEvent}
    (he : e.isSpontaneous = true) : handed (f.step history (.own e he)).past = handed f.past := by
  have hnone : e.handed? = none := by
    cases e <;> simp_all [ClientEvent.isSpontaneous, ClientEvent.handed?]
  simp [step, hnone]

end Follower

/-- The moment at which the signature was taken last. -/
def lastSeen (baseAt : Nat) (happenings : List Happening) : Nat :=
  happenings.foldl (fun last e => e.seen?.getD last) baseAt

@[simp] theorem lastSeen_snoc (baseAt : Nat) (happenings : List Happening) (e : Happening) :
    lastSeen baseAt (happenings ++ [e]) = e.seen?.getD (lastSeen baseAt happenings) := by
  simp [lastSeen]

theorem lastSeen_mem (baseAt : Nat) (happenings : List Happening) :
    lastSeen baseAt happenings ∈ baseAt :: happenings.flatMap Happening.moments := by
  induction happenings using List.reverseRecOn with
  | nil => exact List.mem_cons_self
  | append_singleton happenings e ih =>
    cases e with
    | look now probe i j => simp [Happening.seen?, Happening.moments]
    | own e he => simpa [Happening.seen?, Happening.moments] using ih

/-- No look has seen another signature than the file had at a moment. -/
def SeesOnly (history : History) (s : Nat) (happenings : List Happening) : Prop :=
  ∀ e ∈ happenings, ∀ i, e.seen? = some i → (history i).signature = (history s).signature

theorem SeesOnly.snoc {history : History} {s : Nat} {happenings : List Happening}
    (h : SeesOnly history s happenings) {e : Happening}
    (he : ∀ i, e.seen? = some i → (history i).signature = (history s).signature) :
    SeesOnly history s (happenings ++ [e]) := by
  intro e' he' i hi
  rcases List.mem_append.mp he' with he' | he'
  · exact h e' he' i hi
  · cases List.mem_singleton.mp he'
    exact he i hi

theorem SeesOnly.lastSeen_signature {history : History} {s : Nat} {happenings : List Happening}
    (h : SeesOnly history s happenings) :
    (history (lastSeen s happenings)).signature = (history s).signature := by
  induction happenings using List.reverseRecOn with
  | nil => rfl
  | append_singleton happenings e ih =>
    rw [lastSeen_snoc]
    cases hi : e.seen? with
    | none => exact ih fun e' he' => h e' (List.mem_append_left _ he')
    | some i => exact h e (by simp) i hi

/-- The last look to see another signature than the one taken before it came after `before`. It saw
the file at moment `i` and read it at moment `j`. -/
structure LastChange (history : History) (baseAt : Nat) (happenings before : List Happening)
    (i j : Nat) : Prop where
  changed : (history i).signature ≠ (history (lastSeen baseAt before)).signature
  split : ∃ now probe after,
    happenings = before ++ .look now probe i j :: after ∧ SeesOnly history i after

namespace LastChange

variable {history : History} {baseAt i j : Nat} {happenings before : List Happening}

theorem snoc (h : LastChange history baseAt happenings before i j) {e : Happening}
    (he : ∀ k, e.seen? = some k → (history k).signature = (history i).signature) :
    LastChange history baseAt (happenings ++ [e]) before i j := by
  obtain ⟨now, probe, after, rfl, honly⟩ := h.split
  exact ⟨h.changed, now, probe, after ++ [e], by simp, honly.snoc he⟩

theorem lastSeen_signature (h : LastChange history baseAt happenings before i j) :
    (history (lastSeen baseAt happenings)).signature = (history i).signature := by
  obtain ⟨now, probe, after, rfl, honly⟩ := h.split
  have hsplit : lastSeen baseAt (before ++ .look now probe i j :: after) = lastSeen i after := by
    simp [lastSeen, Happening.seen?]
  rw [hsplit]
  exact honly.lastSeen_signature

end LastChange

namespace Follower

variable {history : History} {f : Follower} {baseAt : Nat}

theorem run_watcher (hlive : f.watcher.stopped = false)
    (hbase : f.watcher.last = (history baseAt).signature) (happenings : List Happening) :
    (f.run history happenings).watcher.stopped = false ∧
      (f.run history happenings).watcher.last =
        (history (lastSeen baseAt happenings)).signature := by
  induction happenings using List.reverseRecOn with
  | nil => exact ⟨hlive, hbase⟩
  | append_singleton happenings e ih =>
    obtain ⟨hlive', hlast⟩ := ih
    rw [run_snoc, lastSeen_snoc]
    cases e with
    | own e he => exact ⟨hlive', hlast⟩
    | look now probe i j =>
      by_cases hsame : (history i).signature = (f.run history happenings).watcher.last
      · rw [step, look_of_eq hlive' now probe _ hsame]
        exact ⟨hlive', hsame.symm⟩
      · rw [step, (look_of_ne hlive' now probe (history j) hsame).1]
        exact ⟨hlive', rfl⟩

/-- Where the descriptor comes from that a client has: as long as no look sees a change, it is what
the client was given at first, and afterwards what was read at the last change, or, if that was no
text, what the client had before. -/
inductive HandedBy (history : History) (f : Follower) (baseAt : Nat) (happenings : List Happening)
    (d : Option (Option Descriptor)) : Prop where
  | start (honly : SeesOnly history baseAt happenings) (hd : d = handed f.past) :
      HandedBy history f baseAt happenings d
  | look {before : List Happening} {i j : Nat}
      (hchange : LastChange history baseAt happenings before i j)
      (htext : (history j).IsText → d = some (history j).engine)
      (hother : ¬ (history j).IsText → d = handed (f.run history before).past) :
      HandedBy history f baseAt happenings d

theorem HandedBy.snoc {happenings : List Happening} {d : Option (Option Descriptor)}
    (h : HandedBy history f baseAt happenings d) {e : Happening}
    (he : ∀ k, e.seen? = some k →
      (history k).signature = (history (lastSeen baseAt happenings)).signature) :
    HandedBy history f baseAt (happenings ++ [e]) d := by
  cases h with
  | start honly hd =>
    exact .start (honly.snoc fun k hk => (he k hk).trans honly.lastSeen_signature) hd
  | look hchange htext hother =>
    exact .look (hchange.snoc fun k hk => (he k hk).trans hchange.lastSeen_signature) htext hother

theorem run_handedBy (hlive : f.watcher.stopped = false)
    (hbase : f.watcher.last = (history baseAt).signature) (happenings : List Happening) :
    HandedBy history f baseAt happenings (handed (f.run history happenings).past) := by
  induction happenings using List.reverseRecOn with
  | nil => exact .start (fun e he => by cases he) rfl
  | append_singleton happenings e ih =>
    obtain ⟨hlive', hlast⟩ := run_watcher hlive hbase happenings
    rw [run_snoc]
    cases e with
    | own e he =>
      rw [handed_step_own]
      exact ih.snoc fun k hk => by cases hk
    | look now probe i j =>
      rw [step]
      by_cases hsame : (history i).signature = (f.run history happenings).watcher.last
      · rw [look_of_eq hlive' now probe _ hsame]
        refine ih.snoc fun k hk => ?_
        cases hk
        exact hsame.trans hlast
      · obtain ⟨_, htext, hother⟩ := look_of_ne hlive' now probe (history j) hsame
        refine .look ⟨?_, now, probe, [], rfl, fun e he => by cases he⟩ htext hother
        rw [← hlast]
        exact hsame

end Follower

/-- No access to the state file sees it older than the access before, no two versions share a
signature, and until moment `now` the file stays as it was when its signature was taken last. A look
that does not read the content counts as reading it at once. -/
structure Followed (history : History) (readAt baseAt : Nat) (happenings : List Happening)
    (now : Nat) : Prop where
  distinct : ∀ i j, (history i).signature = (history j).signature → history i = history j
  ordered : (readAt :: baseAt :: happenings.flatMap Happening.moments ++ [now]).Pairwise (· ≤ ·)
  unchanged : ∀ m, lastSeen baseAt happenings ≤ m → m ≤ now →
    history m = history (lastSeen baseAt happenings)

namespace Followed

variable {history : History} {readAt baseAt now : Nat} {happenings : List Happening}

theorem moment_le (h : Followed history readAt baseAt happenings now) {m : Nat}
    (hm : m ∈ baseAt :: happenings.flatMap Happening.moments) : m ≤ now :=
  (List.pairwise_append.mp h.ordered).2.2 m (List.mem_cons_of_mem readAt hm) now
    (List.mem_singleton_self now)

theorem eq_of_signature (h : Followed history readAt baseAt happenings now) {i : Nat}
    (hi : (history (lastSeen baseAt happenings)).signature = (history i).signature) :
    history i = history now := by
  have hlast : lastSeen baseAt happenings ≤ now := h.moment_le (lastSeen_mem baseAt happenings)
  rw [h.unchanged now hlast (Nat.le_refl now)]
  exact (h.distinct _ _ hi).symm

theorem look_le (h : Followed history readAt baseAt happenings now) {before : List Happening}
    {i j : Nat} (hchange : LastChange history baseAt happenings before i j) : i ≤ j ∧ j ≤ now := by
  obtain ⟨_, moment, probe, after, rfl, _⟩ := hchange
  have hpair : [i, j] <:+: readAt :: baseAt ::
      (before ++ .look moment probe i j :: after).flatMap Happening.moments ++ [now] :=
    ⟨readAt :: baseAt :: before.flatMap Happening.moments,
      after.flatMap Happening.moments ++ [now], by simp [Happening.moments]⟩
  have hij := h.ordered.sublist hpair.sublist
  exact ⟨by simpa using hij, h.moment_le (by simp [Happening.moments])⟩

end Followed

namespace Follower

/-- A client is started and its watcher looks at the state file, while timers fire and sessions go
on. The start succeeds exactly if it reads a text and it can be told whether the engine of this text
runs. If no look sees a change, the client has the descriptor of the present version exactly if the
version that it read at its start tells of the same engine as the one whose signature was taken
then. Otherwise it is the last look to see a change that counts: it saw the present version, so what
it read is that version too unless the file has changed in between and changed back. If a text was
read, the client has the descriptor of the present version exactly if the text tells of the same
engine; if it was no text, the client has what it had before that look. -/
theorem start_handed_current_iff (settings : ClientSettings) (probe : Int → Probe)
    (history : History) (readAt baseAt now : Nat) (happenings : List Happening)
    (h : Followed history readAt baseAt happenings now) :
    let started := start settings probe (history readAt).content (history baseAt).signature
    let current := some (history now).engine
    ((∃ f, started = .ok f) ↔
      (history readAt).IsText ∧ liveness probe (history readAt).engine ≠ .unknown) ∧
    ∀ f, started = .ok f →
      ((SeesOnly history baseAt happenings ∧
          (handed (f.run history happenings).past = current ↔
            (history readAt).engine = (history baseAt).engine)) ∨
        ∃ before i j, LastChange history baseAt happenings before i j ∧
          history i = history now ∧ i ≤ j ∧ j ≤ now ∧
          ((history j).IsText → (handed (f.run history happenings).past = current ↔
            (history j).engine = (history now).engine)) ∧
          (¬ (history j).IsText →
            handed (f.run history happenings).past = handed (f.run history before).past)) := by
  intro started current
  have hstarted := start_eq_ok_iff settings probe (history readAt) (history baseAt).signature
  constructor
  · constructor
    · rintro ⟨f, hf⟩
      obtain ⟨htext, hknown, _⟩ := (hstarted f).mp hf
      exact ⟨htext, hknown⟩
    · rintro ⟨htext, hknown⟩
      exact ⟨_, (hstarted _).mpr ⟨htext, hknown, rfl⟩⟩
  intro f hf
  obtain ⟨_, _, hnew⟩ := (hstarted f).mp hf
  have hlive : f.watcher.stopped = false := by rw [hnew]; rfl
  have hbase : f.watcher.last = (history baseAt).signature := by rw [hnew]; rfl
  have hfirst : handed f.past = some (history readAt).engine := by rw [hnew]; rfl
  cases run_handedBy hlive hbase happenings with
  | start honly hd =>
    refine Or.inl ⟨honly, ?_⟩
    rw [hd, hfirst, Option.some.injEq, h.eq_of_signature honly.lastSeen_signature]
  | look hchange hread hother =>
    obtain ⟨hij, hnow⟩ := h.look_le hchange
    refine Or.inr ⟨_, _, _, hchange, h.eq_of_signature hchange.lastSeen_signature, hij, hnow,
      fun htext => ?_, hother⟩
    rw [hread htext, Option.some.injEq]

end Follower

/-! Files that are lost, and one that is found. -/

def engineFile (modified : Int) : FileState :=
  .ofVersion (some ⟨Utf8.encode "\x7b\"port\": 1, \"pid\": 2\x7d", modified⟩)

/-- The number of the process is greater than any process can have. -/
def oversizedFile : FileState :=
  .ofVersion (some ⟨Utf8.encode "\x7b\"port\": 1, \"pid\": 99999999999\x7d", 1⟩)

/-- All processes are found whose numbers can be asked for. -/
def boundedProbe (pid : Int) : Probe := if pid < 2147483648 then .found else .impossible

def noFile : FileState := .ofVersion none

def garbledFile (modified : Int) : FileState := .ofVersion (some ⟨[0xff], modified⟩)

/-- The file is changed once, between the first two moments. -/
def changedOnce (v w : FileState) : History
  | 0 => v
  | _ + 1 => w

theorem followed_changedOnce {v w : FileState} (hne : v.signature ≠ w.signature)
    {readAt baseAt now : Nat} {happenings : List Happening}
    (hordered :
      (readAt :: baseAt :: happenings.flatMap Happening.moments ++ [now]).Pairwise (· ≤ ·))
    (hlast : 0 < lastSeen baseAt happenings) :
    Followed (changedOnce v w) readAt baseAt happenings now := by
  refine ⟨?_, hordered, ?_⟩
  · rintro (_ | i) (_ | j) hij
    · rfl
    · exact absurd hij hne
    · exact absurd hij.symm hne
    · rfl
  · intro m hm _
    obtain ⟨k, hk⟩ := Nat.exists_eq_add_one_of_ne_zero (Nat.ne_of_gt hlast)
    obtain ⟨l, rfl⟩ : ∃ l, m = l + 1 := ⟨m - 1, by omega⟩
    rw [hk]
    rfl

/-- The state file of an engine is replaced by that of another one while the client looks, and both
are gone when it looks again. -/
def cameBack : History
  | 0 => engineFile 1
  | 1 => noFile
  | 2 => engineFile 2
  | _ + 3 => noFile

theorem followed_cameBack (looked : Double) (probe : Int → Probe) :
    Followed cameBack 0 0 [.look looked probe 1 2, .look looked probe 3 3] 3 := by
  refine ⟨?_, by simp [Happening.moments], ?_⟩
  · rintro (_ | _ | _ | i) (_ | _ | _ | j) hij <;>
      first
      | rfl
      | simp [cameBack, engineFile, noFile, FileState.ofVersion, FileVersion.signature] at hij
  · intro m hm _
    obtain ⟨l, rfl⟩ : ∃ l, m = l + 3 := ⟨m - 3, by simp [lastSeen, Happening.seen?] at hm; omega⟩
    rfl

namespace Follower

/-- An engine starts after the client has, and is found. -/
theorem start_handed_current_found :
    let history := changedOnce noFile (engineFile 5)
    let happenings : List Happening := [.own (.timer 0) rfl, .look default (fun _ => .found) 1 1]
    ∃ f, start default (fun _ => .found) (history 0).content (history 0).signature = .ok f ∧
      handed (f.run history happenings).past = some (some ⟨1, 2⟩) := by
  intro history happenings
  have hne : noFile.signature ≠ (engineFile 5).signature := by decide +kernel
  have hfollowed : Followed history 0 0 happenings 2 :=
    followed_changedOnce hne (by decide) (by decide)
  obtain ⟨hstarted, hhanded⟩ :=
    start_handed_current_iff default (fun _ => .found) history 0 0 2 happenings hfollowed
  obtain ⟨f, hstart⟩ := hstarted.mpr (by decide)
  refine ⟨f, hstart, ?_⟩
  obtain ⟨honly, _⟩ | ⟨before, i, j, hchange, hi, hij, _, hiff, _⟩ := hhanded f hstart
  · have hsame := honly (.look default (fun _ => .found) 1 1) (by simp [happenings]) 1 rfl
    exact absurd hsame.symm hne
  · have hj : history j = engineFile 5 := by
      rcases i with _ | i
      · exact absurd (congrArg FileState.signature hi) hne
      · obtain ⟨k, rfl⟩ : ∃ k, j = k + 1 := ⟨j - 1, by omega⟩
        rfl
    rw [hj] at hiff
    rw [(hiff (by decide +kernel)).mpr rfl]
    decide +kernel

/-- Four ways to lose an engine. The file turns into something that is no text, and the client is
never told that the engine is gone. The engine starts between the two accesses at the start, and is
never found. The file is gone when a look takes the signature, is there again when the look reads
it, and is gone for good after that, which no later look notices. The file names a process that
nobody can ask for when the client is started, and nothing is ever watched. -/
theorem start_handed_current_lost :
    let probe : Int → Probe := fun _ => .found
    let twice : List Happening := [.look default probe 1 1, .look default probe 1 1]
    let between : List Happening := [.look default probe 1 2, .look default probe 3 3]
    let garbled := changedOnce (engineFile 1) (garbledFile 2)
    let started := changedOnce noFile (engineFile 1)
    (Followed garbled 0 0 twice 1 ∧ (garbled 1).engine = none ∧
      (start default probe (garbled 0).content (garbled 0).signature).map
        (fun f => handed (f.run garbled twice).past) = .ok (some (some ⟨1, 2⟩))) ∧
    (Followed started 0 1 twice 1 ∧ (started 1).engine = some ⟨1, 2⟩ ∧
      (start default probe (started 0).content (started 1).signature).map
        (fun f => handed (f.run started twice).past) = .ok (some none)) ∧
    (Followed cameBack 0 0 between 3 ∧ (cameBack 3).engine = none ∧
      (start default probe (cameBack 0).content (cameBack 0).signature).map
        (fun f => handed (f.run cameBack between).past) = .ok (some (some ⟨1, 2⟩))) ∧
    (oversizedFile.engine = some ⟨1, 99999999999⟩ ∧
      (start default boundedProbe oversizedFile.content oversizedFile.signature).map
        (fun f => handed f.past) = .error .unknown) := by
  intro probe twice between garbled started
  refine ⟨⟨?_, by decide +kernel, by decide +kernel⟩, ⟨?_, by decide +kernel, by decide +kernel⟩,
    ⟨followed_cameBack default probe, by decide +kernel, by decide +kernel⟩,
    by decide +kernel, by decide +kernel⟩
  · exact followed_changedOnce (by decide +kernel) (by decide) (by decide)
  · exact followed_changedOnce (by decide +kernel) (by decide) (by decide)

end Follower

end PatternServer.Engine
