import PatternServer.Proofs.WorkerRuns

/-!
# Which reply decides a request

The supply fixes the processes that a pool will ever start, in order, and all that they will ever
say. What a pool has read of the output of a process and what it has written to it is its traffic
with that process. A call that writes a request takes the number after all numbers that were ever
used, and reads up to the first line that is a reply to this number. Lines are read once only.

Without a reply the parser is mostly unavailable. The exceptions are `Upset`: no process can be
started and nobody is prepared for the reason, or a pipe stalls or fails in such a way.
-/

namespace PatternServer.Worker

set_option autoImplicit false

open PatternServer.Notation PatternServer.Number

/-! The processes of a supply. -/

def Supply.child? : Supply → Option Child
  | .child p => some p
  | .failure _ | .fault _ => none

/-- The processes that a supply gives, in the order in which they are started. -/
def handed (supply : List Supply) : List Child :=
  supply.filterMap Supply.child?

/-- The lines of the `k`-th process that come in time. -/
def timelyOf (supply : List Supply) (k : Nat) : List (List UInt8) :=
  ((handed supply)[k]?.map Child.timely).getD []

/-- What becomes of a call that reads all these lines, if it is nothing that the parser is prepared
for. -/
def surpriseOf (supply : List Supply) (k : Nat) : Option Unavailable :=
  (handed supply)[k]?.bind fun p => p.output.surprise?

namespace Child

/-- The lines that can still be read from a process, and the requests that were written to it. -/
def traffic (p : Child) : List (List UInt8) × List Request := (p.timely, p.sent)

theorem timely_skip (p : Child) (n : Nat) : (p.skip n).timely = p.timely.drop n := by
  unfold timely skip
  cases p.output <;> simp [List.drop_take]

theorem traffic_write_skip (p : Child) (r : Request) (n : Nat) :
    ((p.write r).skip n).traffic = (p.timely.drop n, p.sent ++ [r]) :=
  Prod.ext (timely_skip (p.write r) n) rfl

theorem replyTo?_eq_some_iff {id : Nat} {line : List UInt8} {r : Reply} :
    replyTo? id line = some r ↔ Reply.ofLine? line = some r ∧ r.id = id := by
  simp [replyTo?, Option.filter_eq_some_iff]

/-- The reply that is found is the first, and none is overlooked. -/
theorem findReply?_eq_some_iff {id : Nat} {lines : List (List UInt8)} {i : Nat} {r : Reply} :
    findReply? id lines = some (i, r) ↔
      (∃ line, lines[i]? = some line ∧ replyTo? id line = some r) ∧
        ∀ j line, j < i → lines[j]? = some line → replyTo? id line = none := by
  induction lines generalizing i with
  | nil => simp [findReply?]
  | cons line lines ih =>
    simp only [findReply?]
    cases hline : replyTo? id line with
    | some r' =>
      constructor
      · rintro ⟨⟩
        exact ⟨⟨line, rfl, hline⟩, fun j _ hj => absurd hj (Nat.not_lt_zero j)⟩
      · rintro ⟨⟨line', hget, hreply⟩, hfirst⟩
        cases i with
        | zero =>
          cases hget
          rw [hline] at hreply
          cases hreply
          rfl
        | succ i =>
          have := hfirst 0 line (Nat.succ_pos i) rfl
          rw [hline] at this
          cases this
    | none =>
      cases i with
      | zero => simp [hline]
      | succ i =>
        have hshift : (findReply? id lines).map (fun found => (found.1 + 1, found.2)) =
            some (i + 1, r) ↔ findReply? id lines = some (i, r) := by
          simp [Prod.ext_iff]
        rw [hshift, ih]
        refine and_congr Iff.rfl ⟨?_, ?_⟩
        · intro hfirst j line' hj hget
          cases j with
          | zero =>
            cases hget
            exact hline
          | succ j => exact hfirst j line' (Nat.lt_of_succ_lt_succ hj) hget
        · intro hfirst j line' hj hget
          exact hfirst (j + 1) line' (Nat.succ_lt_succ hj) hget

end Child

namespace Pool

variable {supply : List Supply} {s : Pool}

/-- The `k`-th process of a supply as it is at a pool, started or not. -/
def process? (supply : List Supply) (s : Pool) (k : Nat) : Option Child :=
  (s.child? k).or (handed supply)[k]?

def traffic (supply : List Supply) (s : Pool) (k : Nat) : List (List UInt8) × List Request :=
  ((s.process? supply k).map Child.traffic).getD ([], [])

/-- How many lines of the `k`-th process have been read. -/
def linesRead (supply : List Supply) (s : Pool) (k : Nat) : Nat :=
  (timelyOf supply k).length - (s.traffic supply k).1.length

/-- A call writes a request with the number `n` to the `k`-th process. -/
def Asks (supply : List Supply) (s : Pool) (c : Call) (k n : Nat) : Prop :=
  ((s.call c).2.traffic supply k).2 = (s.traffic supply k).2 ++ [⟨n, c.kind, c.quoted⟩]

instance (supply : List Supply) (s : Pool) (c : Call) (k n : Nat) :
    Decidable (s.Asks supply c k n) :=
  inferInstanceAs (Decidable (_ = _))

/-- Of the lines of the `k`-th process that come in time and have not been read, the one at place
`j` is the first that is a reply with the number `n`. -/
structure Answers (supply : List Supply) (s : Pool) (k n j : Nat) (r : Reply) : Prop where
  unread : s.linesRead supply k ≤ j
  reply : ∃ line, (timelyOf supply k)[j]? = some line ∧ Reply.ofLine? line = some r ∧ r.id = n
  first : ∀ i line r', s.linesRead supply k ≤ i → i < j → (timelyOf supply k)[i]? = some line →
    Reply.ofLine? line = some r' → r'.id ≠ n

/-- A call neither is answered nor finds that the parser is unavailable. -/
inductive Upset (supply : List Supply) (s : Pool) (c : Call) (e : Unavailable) : Prop where
  | hindered (h : s.Hindered c e)
  | unread {k n : Nat} (hasks : s.Asks supply c k n) (hnone : ¬ ∃ j r, s.Answers supply k n j r)
      (he : surpriseOf supply k = some e)

/-- The processes of the supply that have not been started are those that the pool can still
start, and the pipes of the others are as they were. -/
structure Supplied (supply : List Supply) (s : Pool) : Prop where
  rest : (handed supply).drop s.children.length = handed s.supply
  started : s.children.length ≤ (handed supply).length
  output : ∀ k p, s.child? k = some p → surpriseOf supply k = p.output.surprise?

theorem Supplied.process?_ready (h : Supplied supply s) {k : Nat} {p : Child} {t : Pool}
    (hready : Ready s k p t) : s.process? supply k = some p := by
  cases hready with
  | running _ _ hp => simp [process?, hp]
  | started _ hsupply =>
    have hnew : s.child? s.children.length = none := List.getElem?_eq_none (Nat.le_refl _)
    have hhead : (handed supply)[s.children.length]? = some p := by
      rw [← List.head?_drop, h.rest, hsupply]
      rfl
    simp [process?, hnew, hhead]

/-- A process that is started is the one that the supply has at its place. -/
theorem Supplied.process?_of_ready (h : Supplied supply s) {k : Nat} {p : Child} {t : Pool}
    (hready : Ready s k p t) (j : Nat) : t.process? supply j = s.process? supply j := by
  by_cases hj : k = j
  · subst hj
    rw [h.process?_ready hready, process?, hready.child?]
    rfl
  · rw [process?, hready.child?_of_ne hj, process?]

theorem Supplied.of_eq {s' : Pool} (h : Supplied supply s) (hsupply : s'.supply = s.supply)
    (hchildren : s'.children = s.children) : Supplied supply s' :=
  ⟨by rw [hsupply, hchildren, h.rest], by rw [hchildren]; exact h.started,
    fun k p hp => h.output k p (by rwa [child?, hchildren] at hp)⟩

theorem Supplied.of_set {s' : Pool} (h : Supplied supply s) (hsupply : s'.supply = s.supply)
    {k : Nat} {p p' : Child} (hp : s.child? k = some p)
    (hset : s'.children = s.children.set k p') (houtput : p'.output = p.output) :
    Supplied supply s' := by
  refine ⟨?_, ?_, ?_⟩
  · rw [hsupply, hset, List.length_set, h.rest]
  · rw [hset, List.length_set]
    exact h.started
  · intro j q hq
    by_cases hj : k = j
    · subst hj
      have hself : s'.child? k = some p' := by
        rw [child?, hset]
        exact child?_set hp
      cases hself.symm.trans hq
      rw [houtput, h.output k p hp]
    · rw [child?_set_ne hset hj] at hq
      exact h.output j q hq

theorem Supplied.ready (h : Supplied supply s) {k : Nat} {p : Child} {t : Pool}
    (hready : Ready s k p t) : Supplied supply t := by
  have hnew := hready.child?
  have hothers : ∀ j, k ≠ j → t.child? j = s.child? j := fun j hj => hready.child?_of_ne hj
  cases hready with
  | running => exact h
  | @started _ rest _ hsupply =>
    have hdrop : (handed supply).drop s.children.length = p :: handed rest := by
      rw [h.rest, hsupply]
      rfl
    refine ⟨?_, ?_, ?_⟩
    · simp only [Pool.started, List.length_append, List.length_singleton]
      rw [← List.drop_drop, hdrop]
      rfl
    · simp only [Pool.started, List.length_append, List.length_singleton]
      by_contra hle
      rw [List.drop_eq_nil_of_le (by omega)] at hdrop
      cases hdrop
    · intro j q hq
      by_cases hj : s.children.length = j
      · subst hj
        cases hnew.symm.trans hq
        have hhead : (handed supply)[s.children.length]? = some p := by
          rw [← List.head?_drop, hdrop]
          rfl
        simp [surpriseOf, hhead]
      · rw [hothers j hj] at hq
        exact h.output j q hq

theorem Supplied.unready (h : Supplied supply s) {e : Unavailable} {t : Pool}
    (hunready : Unready s e t) : Supplied supply t := by
  have hskip : (∀ p rest, s.supply ≠ .child p :: rest) → handed (s.supply.drop 1) =
      handed s.supply := by
    intro hsupply
    rcases hs : s.supply with _ | ⟨p | reason | reason, rest⟩
    · rfl
    · exact absurd hs (hsupply p rest)
    · rfl
    · rfl
  cases hunready with
  | remembered | restarting => exact h
  | faulted hfail | unnamed hfail | failed hfail =>
    exact ⟨h.rest.trans (hskip hfail.missing).symm, h.started, h.output⟩

/-- A process is put in another state, and the others stay as they are. -/
theorem process?_of_set (supply : List Supply) {s' : Pool} {k : Nat} {p p' : Child}
    (hp : s.child? k = some p) (hset : s'.children = s.children.set k p') :
    s'.process? supply k = some p' ∧ ∀ j, j ≠ k → s'.process? supply j = s.process? supply j := by
  constructor
  · rw [process?, child?, hset, show (s.children.set k p')[k]? = some p' from child?_set hp]
    rfl
  · intro j hj
    rw [process?, child?_set_ne hset (Ne.symm hj), process?]

theorem traffic_of_process? {k : Nat} {p : Child} (hp : s.process? supply k = some p) :
    s.traffic supply k = p.traffic := by simp [traffic, hp]

theorem traffic_congr {s' : Pool} {j : Nat} (h : s'.process? supply j = s.process? supply j) :
    s'.traffic supply j = s.traffic supply j := by rw [traffic, h, traffic]

/-- A reason for which there is no reply is the surprise that there is, or if there is none the
parser is unavailable. -/
def Expected (surprise : Option Unavailable) (e : Unavailable) : Prop :=
  surprise = some e ∨ surprise = none ∧ e.isReported = true

/-- What a call exchanges with the processes: nothing is written, or a request is written to one of
them and lines of this one are read, up to the reply if there is one. -/
inductive Exchanged (supply : List Supply) (s : Pool) (c : Call) :
    Except Unavailable Reply → Pool → Prop where
  | unwritten {e : Unavailable} {s' : Pool} (hid : s.lastId ≤ s'.lastId)
      (hsame : ∀ j, s'.traffic supply j = s.traffic supply j)
      (he : e.isReported = true ∨ s.Hindered c e) : Exchanged supply s c (.error e) s'
  | written {k n : Nat} {result : Except Unavailable Reply} {s' : Pool}
      (hid : s'.lastId = s.lastId + 1)
      (hothers : ∀ j, j ≠ k → s'.traffic supply j = s.traffic supply j)
      (htraffic : s'.traffic supply k =
        ((s.traffic supply k).1.drop n, (s.traffic supply k).2 ++ [s.nextRequest c]))
      (hdecided :
        (∃ i r, Child.findReply? (s.lastId + 1) (s.traffic supply k).1 = some (i, r) ∧ n = i + 1 ∧
          result = .ok r) ∨
        Child.findReply? (s.lastId + 1) (s.traffic supply k).1 = none ∧
          ∃ e, result = .error e ∧ Expected (surpriseOf supply k) e) :
      Exchanged supply s c result s'

namespace Supplied

theorem traffic_ready (h : Supplied supply s) {t : Pool} {k : Nat} {p : Child}
    (hready : Ready s k p t) :
    s.traffic supply k = p.traffic ∧ ∀ j, t.traffic supply j = s.traffic supply j := by
  have hsame : ∀ j, t.traffic supply j = s.traffic supply j :=
    fun j => traffic_congr (h.process?_of_ready hready j)
  refine ⟨?_, hsame⟩
  rw [← hsame]
  exact traffic_of_process? (by simp [process?, hready.child?])

theorem traffic_set (h : Supplied supply s) {t s' : Pool} {k : Nat} {p p' : Child}
    (hready : Ready s k p t) (hset : s'.children = t.children.set k p') :
    s'.traffic supply k = p'.traffic ∧
      ∀ j, j ≠ k → s'.traffic supply j = s.traffic supply j := by
  obtain ⟨hself, hothers⟩ := process?_of_set supply hready.child? hset
  exact ⟨traffic_of_process? hself,
    fun j hj => (traffic_congr (hothers j hj)).trans ((h.traffic_ready hready).2 j)⟩

theorem traffic_kept (h : Supplied supply s) {t s' : Pool} {k : Nat} {p p' : Child}
    (hready : Ready s k p t) (hset : s'.children = t.children.set k p')
    (hp' : p'.traffic = p.traffic) (j : Nat) : s'.traffic supply j = s.traffic supply j := by
  obtain ⟨hself, hothers⟩ := h.traffic_set hready hset
  by_cases hj : j = k
  · rw [hj, hself, hp', (h.traffic_ready hready).1]
  · exact hothers j hj

/-- Using a process, as an exchange. The process may have been started just now, but the supply has
it at the same place. -/
theorem exchanged_used (h : Supplied supply s) {t s' : Pool} {c : Call} {k : Nat} {p : Child}
    {result : Except Unavailable Reply} (hready : Ready s k p t)
    (hused : Used t c k p result s') : Exchanged supply s c result s' := by
  have hlast : t.lastId = s.lastId := by cases hready <;> rfl
  obtain ⟨htraffic, hsame⟩ := h.traffic_ready hready
  have htimely : p.timely = (s.traffic supply k).1 := by rw [htraffic]; rfl
  have hpipe : surpriseOf supply k = p.output.surprise? :=
    (h.ready hready).output k p hready.child?
  have hwritten : ∀ n {p' : Child}, s'.children = t.children.set k p' →
      p'.traffic = ((p.write (t.nextRequest c)).skip n).traffic →
      s'.traffic supply k =
        ((s.traffic supply k).1.drop n, (s.traffic supply k).2 ++ [s.nextRequest c]) := by
    intro n p' hchildren hp'
    rw [(h.traffic_set hready hchildren).1, hp', htraffic, p.traffic_write_skip, nextRequest,
      hlast]
    rfl
  have hnone : ∀ {e : Unavailable} {p' : Child}, s'.lastId = t.lastId + 1 →
      s'.children = t.children.set k p' →
      p'.traffic = ((p.write (t.nextRequest c)).skip p.timely.length).traffic →
      Child.findReply? (t.lastId + 1) p.timely = none → Expected p.output.surprise? e →
      Exchanged supply s c (.error e) s' := by
    intro e p' hid hchildren hp' hnone he
    rw [htimely, hlast] at hnone
    rw [hlast] at hid
    exact .written hid (h.traffic_set hready hchildren).2
      (hwritten p.timely.length hchildren hp') (Or.inr ⟨hnone, e, rfl, hpipe ▸ he⟩)
  cases hused with
  | noPipes =>
    exact .unwritten (Nat.le_of_eq hlast.symm) (h.traffic_kept hready rfl rfl) (Or.inl rfl)
  | gone =>
    exact .unwritten (by simp [leaving, hlast]) (h.traffic_kept hready rfl rfl) (Or.inl rfl)
  | blocked hpipes hfull =>
    exact .unwritten (by simp [hlast]) hsame (Or.inr (.blocked hready hpipes hfull))
  | @answered i r _ hfound =>
    rw [htimely, hlast] at hfound
    exact .written (congrArg (· + 1) hlast) (h.traffic_set hready rfl).2
      (hwritten (i + 1) rfl rfl) (Or.inl ⟨i, r, hfound, rfl, rfl⟩)
  | unheard _ hfound hcalm he =>
    refine hnone rfl rfl rfl hfound (Or.inr ⟨hcalm, ?_⟩)
    rcases he with rfl | ⟨reason, rfl⟩ <;> rfl
  | ended _ hfound hcalm => exact hnone rfl rfl rfl hfound (Or.inr ⟨hcalm, rfl⟩)
  | surprised _ hfound he => exact hnone rfl rfl rfl hfound (Or.inl he)

theorem exchanged (h : Supplied supply s) (hstart : s.RemembersStart) {c : Call}
    {result : Except Unavailable Reply} {s' : Pool} (hasked : Asked s c result s') :
    Exchanged supply s c result s' := by
  cases hasked with
  | unready hunready =>
    have he := hunready.isReported_or_hindered hstart c
    cases hunready <;> exact .unwritten (Nat.le_refl _) (fun j => rfl) he
  | used hready hused => exact h.exchanged_used hready hused

theorem call (h : Supplied supply s) (c : Call) : Supplied supply (s.call c).2 := by
  have hused : ∀ {t k p result t'}, Supplied supply t → t.child? k = some p →
      Used t c k p result t' → Supplied supply t' := by
    rintro t k p _ _ ht hp (_ | _ | _ | _ | _ | _ | _)
    case blocked => exact ht.of_eq rfl rfl
    all_goals exact ht.of_set rfl hp rfl rfl
  obtain ⟨result, _, hasked⟩ := s.exists_asked c
  cases hasked with
  | unready hunready => exact h.unready hunready
  | used hready hu => exact hused (h.ready hready) hready.child? hu

/-- What is not a call exchanges nothing. -/
theorem step_of_ne_call (h : Supplied supply s) {e : PoolEvent} (he : ∀ c, e ≠ .call c) :
    Supplied supply (s.step e) ∧ (s.step e).lastId = s.lastId ∧
      ∀ j, (s.step e).traffic supply j = s.traffic supply j := by
  obtain ⟨clock, current, children, heq, _, hchildren⟩ := s.step_of_ne_call he
  have hsupply : (s.step e).supply = s.supply := congrArg (·.supply) heq
  have hlast : (s.step e).lastId = s.lastId := congrArg (·.lastId) heq
  have hafter : (s.step e).children = children := congrArg (·.children) heq
  rcases hchildren with rfl | ⟨k, p, exitCode, kills, hp, rfl⟩
  · refine ⟨h.of_eq hsupply hafter, hlast, fun j => traffic_congr ?_⟩
    rw [process?, child?, hafter]
    rfl
  · refine ⟨h.of_set hsupply hp hafter rfl, hlast, fun j => ?_⟩
    obtain ⟨hself, hothers⟩ := process?_of_set supply hp hafter
    by_cases hj : j = k
    · have hbefore : s.process? supply k = some p := by simp [process?, hp]
      rw [hj, traffic_of_process? hself, traffic_of_process? hbefore]
      rfl
    · exact traffic_congr (hothers j hj)

end Supplied

theorem supplied_ofSupply (launch : Launch) (clock : Double) (supply : List Supply) :
    Supplied supply (ofSupply launch clock supply) :=
  ⟨rfl, Nat.zero_le _, fun _ _ hp => by cases hp⟩

/-! From one event to the next. -/

/-- A pool that belongs to a supply, and has read some of the lines of each process. -/
structure Reading (supply : List Supply) (s : Pool) : Prop extends Supplied supply s where
  remembers : s.RemembersStart
  suffix : ∀ k, (s.traffic supply k).1 <:+ timelyOf supply k

namespace Reading

theorem traffic_eq_drop (h : Reading supply s) (k : Nat) :
    (s.traffic supply k).1 = (timelyOf supply k).drop (s.linesRead supply k) :=
  List.suffix_iff_eq_drop.mp (h.suffix k)

/-- Numbers grow, and lines are read once. -/
theorem step (h : Reading supply s) (e : PoolEvent) :
    Reading supply (s.step e) ∧ s.lastId ≤ (s.step e).lastId ∧
      ∀ k, ((s.step e).traffic supply k).1 <:+ (s.traffic supply k).1 := by
  have hsame : ∀ {s' : Pool} {k : Nat}, s'.traffic supply k = s.traffic supply k →
      (s'.traffic supply k).1 <:+ (s.traffic supply k).1 :=
    fun hk => hk ▸ List.suffix_refl _
  have hnext : Supplied supply (s.step e) ∧ s.lastId ≤ (s.step e).lastId ∧
      ∀ k, ((s.step e).traffic supply k).1 <:+ (s.traffic supply k).1 := by
    rcases e.eq_call_or_ne with ⟨c, rfl⟩ | he
    · obtain ⟨result, _, hasked⟩ := s.exists_asked c
      refine ⟨h.toSupplied.call c, ?_⟩
      change s.lastId ≤ (s.call c).2.lastId ∧ ∀ k, ((s.call c).2.traffic supply k).1 <:+ _
      cases h.toSupplied.exchanged h.remembers hasked with
      | unwritten hid hkept => exact ⟨hid, fun k => hsame (hkept k)⟩
      | @written k n _ _ hid hothers htraffic _ =>
        refine ⟨by omega, fun j => ?_⟩
        by_cases hj : j = k
        · rw [hj, htraffic]
          exact List.drop_suffix n _
        · exact hsame (hothers j hj)
    · obtain ⟨hsupplied, hid, hkept⟩ := h.toSupplied.step_of_ne_call he
      exact ⟨hsupplied, Nat.le_of_eq hid.symm, fun k => hsame (hkept k)⟩
  obtain ⟨hsupplied, hid, hsuffix⟩ := hnext
  exact ⟨⟨hsupplied, h.remembers.step e, fun k => (hsuffix k).trans (h.suffix k)⟩, hid, hsuffix⟩

theorem linesRead_le (h : Reading supply s) (e : PoolEvent) (k : Nat) :
    s.linesRead supply k ≤ (s.step e).linesRead supply k := by
  obtain ⟨_, _, hsuffix⟩ := h.step e
  have := (hsuffix k).length_le
  unfold linesRead
  omega

theorem run (h : Reading supply s) (events : List PoolEvent) :
    s.lastId ≤ (s.run events).lastId ∧
      ∀ k, s.linesRead supply k ≤ (s.run events).linesRead supply k := by
  induction events generalizing s with
  | nil => exact ⟨Nat.le_refl _, fun k => Nat.le_refl _⟩
  | cons e events ih =>
    obtain ⟨hnext, hid, _⟩ := h.step e
    obtain ⟨hids, hlines⟩ := ih hnext
    exact ⟨Nat.le_trans hid hids, fun k => Nat.le_trans (h.linesRead_le e k) (hlines k)⟩

/-- What calls have used of numbers and lines is used up when the run is over. -/
theorem of_makes (h : Reading supply s) {s' : Pool} {c : Call} {events : List PoolEvent}
    (hmakes : s.Makes events s' c) :
    Reading supply s' ∧ (s'.call c).2.lastId ≤ (s.run events).lastId ∧
      ∀ k, (s'.call c).2.linesRead supply k ≤ (s.run events).linesRead supply k := by
  have hs' : Reading supply s' := hmakes.preserves (fun _ e h => (h.step e).1) h
  obtain ⟨rest, hrun⟩ := hmakes.exists_run
  rw [hrun]
  exact ⟨hs', (hs'.step (.call c)).1.run rest⟩

/-- A call that writes a request takes the next number, and is decided by the lines that have not
been read. -/
theorem asks (h : Reading supply s) {c : Call} {k n : Nat} (hasks : s.Asks supply c k n) :
    n = s.lastId + 1 ∧ (s.call c).2.lastId = n ∧
      ((∃ i r, Child.findReply? n (s.traffic supply k).1 = some (i, r) ∧
          (s.call c).1 = r.given c ∧
          ((s.call c).2.traffic supply k).1 = (s.traffic supply k).1.drop (i + 1)) ∨
        Child.findReply? n (s.traffic supply k).1 = none ∧
          ∃ e, (s.call c).1 = .error (.unavailable e) ∧ Expected (surpriseOf supply k) e) := by
  have hnot : ((s.call c).2.traffic supply k).2 ≠ (s.traffic supply k).2 := by
    rw [hasks]
    simp
  obtain ⟨result, hresult, hasked⟩ := s.exists_asked c
  cases h.toSupplied.exchanged h.remembers hasked with
  | unwritten _ hsame => exact absurd (congrArg Prod.snd (hsame k)) hnot
  | @written k' m _ _ hid hothers htraffic hdecided =>
    obtain rfl : k = k' := by
      by_contra hk
      exact hnot (congrArg Prod.snd (hothers k hk))
    have hn : n = s.lastId + 1 := by
      rw [Asks, htraffic] at hasks
      simpa [nextRequest] using hasks.symm
    subst hn
    refine ⟨rfl, hid, ?_⟩
    rw [hresult, htraffic]
    rcases hdecided with ⟨i, r, hfound, rfl, rfl⟩ | ⟨hnone, e, rfl, he⟩
    · exact Or.inl ⟨i, r, hfound, rfl, rfl⟩
    · exact Or.inr ⟨hnone, e, rfl, he⟩

/-- A call that writes no request comes to nothing. -/
theorem of_not_asks (h : Reading supply s) {c : Call} (hnone : ¬ ∃ k n, s.Asks supply c k n) :
    ∃ e, (s.call c).1 = .error (.unavailable e) ∧ (e.isReported = true ∨ s.Hindered c e) := by
  obtain ⟨result, hresult, hasked⟩ := s.exists_asked c
  cases h.toSupplied.exchanged h.remembers hasked with
  | unwritten _ _ he => exact ⟨_, hresult, he⟩
  | written _ _ htraffic _ => exact absurd ⟨_, _, congrArg Prod.snd htraffic⟩ hnone

/-- The reply that is found among the unread lines, by its place among all lines. -/
theorem answers_iff (h : Reading supply s) {k n j : Nat} {r : Reply} :
    s.Answers supply k n j r ↔
      ∃ i, j = s.linesRead supply k + i ∧
        Child.findReply? n (s.traffic supply k).1 = some (i, r) := by
  have hget : ∀ i, (s.traffic supply k).1[i]? = (timelyOf supply k)[s.linesRead supply k + i]? := by
    intro i
    rw [h.traffic_eq_drop k, List.getElem?_drop]
  constructor
  · rintro ⟨hunread, ⟨line, hline, hreply⟩, hfirst⟩
    obtain ⟨i, rfl⟩ := Nat.exists_eq_add_of_le hunread
    refine ⟨i, rfl, Child.findReply?_eq_some_iff.mpr ⟨⟨line, ?_, ?_⟩, ?_⟩⟩
    · rw [hget, hline]
    · exact Child.replyTo?_eq_some_iff.mpr hreply
    · intro i' line' hi' hline'
      rw [hget] at hline'
      refine Option.eq_none_iff_forall_ne_some.mpr fun r' hr' => ?_
      obtain ⟨hread, hid⟩ := Child.replyTo?_eq_some_iff.mp hr'
      exact hfirst _ line' r' (Nat.le_add_right _ _) (by omega) hline' hread hid
  · rintro ⟨i, rfl, hfound⟩
    obtain ⟨⟨line, hline, hreply⟩, hfirst⟩ := Child.findReply?_eq_some_iff.mp hfound
    rw [hget] at hline
    refine ⟨Nat.le_add_right _ _, ⟨line, hline, Child.replyTo?_eq_some_iff.mp hreply⟩, ?_⟩
    intro i' line' r' hunread hi' hline' hread hid
    obtain ⟨m, rfl⟩ := Nat.exists_eq_add_of_le hunread
    have hnone := hfirst m line' (by omega) (by rw [hget]; exact hline')
    rw [Child.replyTo?_eq_some_iff.mpr ⟨hread, hid⟩] at hnone
    cases hnone

/-- A request for which a reply comes in time is decided by it, and the lines up to it are read. -/
theorem call_of_answers (h : Reading supply s) {c : Call} {k n j : Nat} {r : Reply}
    (hasks : s.Asks supply c k n) (hanswers : s.Answers supply k n j r) :
    (s.call c).1 = r.given c ∧ (s.call c).2.linesRead supply k = j + 1 := by
  obtain ⟨i, rfl, hfound⟩ := h.answers_iff.mp hanswers
  obtain ⟨_, _, ⟨i', r', hfound', hresult, hread⟩ | ⟨hnone, _⟩⟩ := h.asks hasks
  · obtain ⟨rfl, rfl⟩ : i = i' ∧ r = r' := by
      rw [hfound] at hfound'
      simpa using hfound'
    obtain ⟨⟨line, hline, _⟩, _⟩ := Child.findReply?_eq_some_iff.mp hfound
    obtain ⟨hi, _⟩ := List.getElem?_eq_some_iff.mp hline
    have hle := (h.suffix k).length_le
    refine ⟨hresult, ?_⟩
    rw [linesRead, hread, List.length_drop, linesRead]
    omega
  · rw [hfound] at hnone
    cases hnone

/-- A request for which no reply comes in time. -/
theorem call_of_not_answers (h : Reading supply s) {c : Call} {k n : Nat}
    (hasks : s.Asks supply c k n) (hnone : ¬ ∃ j r, s.Answers supply k n j r) :
    ∃ e, (s.call c).1 = .error (.unavailable e) ∧ Expected (surpriseOf supply k) e := by
  obtain ⟨_, _, ⟨i, r, hfound, _⟩ | ⟨_, hresult⟩⟩ := h.asks hasks
  · exact absurd ⟨_, r, h.answers_iff.mpr ⟨i, rfl, hfound⟩⟩ hnone
  · exact hresult

/-- Exactly when a call neither is answered nor finds that the parser is unavailable. -/
theorem upset_iff (h : Reading supply s) (c : Call) {e : Unavailable} (he : e.isReported = false) :
    (s.call c).1 = .error (.unavailable e) ↔ s.Upset supply c e := by
  constructor
  · intro hresult
    by_cases hasks : ∃ k n, s.Asks supply c k n
    · obtain ⟨k, n, hasks⟩ := hasks
      by_cases hanswers : ∃ j r, s.Answers supply k n j r
      · obtain ⟨j, r, hanswers⟩ := hanswers
        have hgiven := (h.call_of_answers hasks hanswers).1.symm.trans hresult
        cases outcome_eq_unavailable_iff.mp (show c.outcome (.ok r) = _ from hgiven)
      · obtain ⟨e', hresult', hexpected⟩ := h.call_of_not_answers hasks hanswers
        cases hresult.symm.trans hresult'
        rcases hexpected with hsurprise | ⟨_, hreported⟩
        · exact .unread hasks hanswers hsurprise
        · cases he.symm.trans hreported
    · obtain ⟨e', hresult', hreported | hhindered⟩ := h.of_not_asks hasks
      all_goals cases hresult.symm.trans hresult'
      · cases he.symm.trans hreported
      · exact .hindered hhindered
  · rintro (hhindered | ⟨hasks, hnone, hsurprise⟩)
    · obtain ⟨result, hresult, hasked⟩ := s.exists_asked c
      rw [hresult, hhindered.result_eq hasked]
      rfl
    · obtain ⟨e', hresult, hexpected | ⟨hcalm, _⟩⟩ := h.call_of_not_answers hasks hnone
      · cases hsurprise.symm.trans hexpected
        exact hresult
      · cases hsurprise.symm.trans hcalm

end Reading

theorem reading_ofSupply (launch : Launch) (clock : Double) (supply : List Supply) :
    Reading supply (ofSupply launch clock supply) :=
  ⟨supplied_ofSupply launch clock supply, remembersStart_run launch clock supply [], fun k => by
    cases h : (handed supply)[k]? <;>
      simp [traffic, process?, child?, ofSupply, timelyOf, h, Child.traffic]⟩

/-- Requests and replies of a pool over its whole life. A call that writes a request does so with a
number that is greater than all before it. If among the lines of the process that come in time there
is one that has not been read and is a reply with this number, the first such line decides the call
and is the last to be read; no line decides two calls. Without such a line, and if nothing is
written, there is no reply, for a reason that is reported as an unavailable parser but for the cases
of `Upset`: a start fails without a command or in a way that is no error of the system, or writing
or reading stalls or fails in a way that nobody is prepared for. -/
theorem run_replies (launch : Launch) (clock : Double) (supply : List Supply)
    (events : List PoolEvent) (c : Call) :
    let start := ofSupply launch clock supply
    let s := start.run events
    (∀ k n, s.Asks supply c k n →
      (∀ s' c' k' n', start.Makes events s' c' → s'.Asks supply c' k' n' → n' < n) ∧
      ∀ j r, s.Answers supply k n j r →
        (s.call c).1 = r.given c ∧ (s.call c).2.linesRead supply k = j + 1 ∧
        ∀ s' c' k' n' j' r', start.Makes events s' c' → s'.Asks supply c' k' n' →
          s'.Answers supply k' n' j' r' → (k', j') ≠ (k, j)) ∧
    ((¬ ∃ k n j r, s.Asks supply c k n ∧ s.Answers supply k n j r) →
      ∃ e, (s.call c).1 = .error (.unavailable e)) ∧
    ∀ e, e.isReported = false →
      ((s.call c).1 = .error (.unavailable e) ↔ s.Upset supply c e) := by
  intro start s
  have hstart : Reading supply start := reading_ofSupply launch clock supply
  have hs : Reading supply s := run_preserves (fun s e h => (h.step e).1) hstart events
  refine ⟨?_, ?_, fun e he => hs.upset_iff c he⟩
  · intro k n hasks
    obtain ⟨rfl, _⟩ := hs.asks hasks
    refine ⟨?_, ?_⟩
    · intro s' c' k' n' hmakes hasks'
      obtain ⟨hs', hlast, _⟩ := hstart.of_makes hmakes
      obtain ⟨_, hnumber, _⟩ := hs'.asks hasks'
      change (s'.call c').2.lastId ≤ s.lastId at hlast
      omega
    · intro j r hanswers
      obtain ⟨hresult, hread⟩ := hs.call_of_answers hasks hanswers
      refine ⟨hresult, hread, ?_⟩
      rintro s' c' k' n' j' r' hmakes hasks' hanswers' ⟨⟩
      -- The line has been read once the earlier call is over.
      obtain ⟨hs', _, hlater⟩ := hstart.of_makes hmakes
      obtain ⟨_, hread'⟩ := hs'.call_of_answers hasks' hanswers'
      have hunread : s.linesRead supply k ≤ j := hanswers.unread
      have hle : (s'.call c').2.linesRead supply k ≤ s.linesRead supply k := hlater k
      omega
  · intro hnone
    by_cases hasks : ∃ k n, s.Asks supply c k n
    · obtain ⟨k, n, hasks⟩ := hasks
      obtain ⟨e, hresult, _⟩ := hs.call_of_not_answers hasks fun ⟨j, r, hanswers⟩ =>
        hnone ⟨k, n, j, r, hasks, hanswers⟩
      exact ⟨e, hresult⟩
    · obtain ⟨e, hresult, _⟩ := hs.of_not_asks hasks
      exact ⟨e, hresult⟩

/-- The first process answers between other lines and then goes silent, so that it is given up. The
second one answers the third request with an error. -/
theorem run_replies_after_restart :
    let bytes := fun text : String => text.toList.flatMap String.utf8EncodeChar
    let first : Child :=
      { lines := ["hello", "\x7b\"id\":9,\"ok\":true\x7d", "\x7b\"id\":1,\"ok\":true\x7d"].map bytes
        output := .silent, input := .ready, killFails := false, lingers := false
        exitCode := none, kills := 0, sent := [], ready := 3 }
    let second : Child :=
      { first with
        lines := ["\x7b\"id\":2,\"ok\":true\x7d", "\x7b\"id\":3,\"ok\":false\x7d"].map bytes
        output := .readable }
    let supply : List Supply := [.child first, .child second]
    let c : Call := ⟨.parse, "\"bd\"".toList, .ofNat 100⟩
    let s := (ofSupply ⟨["node"], "mini", .ofNat 5, none⟩ (.ofNat 100) supply).run
      [.call c, .call c, .clock (.ofNat 105)]
    s.Asks supply c 1 3 ∧ ∃ r, s.Answers supply 1 3 1 r ∧ r.ok = false ∧
      (s.call c).1 = .error (.syntaxError r.report) := by
  intro bytes first second supply c s
  let view := fun line => (Reply.ofLine? line).map fun r => (r.id, r.ok)
  have hasks : s.Asks supply c 1 3 := by decide +kernel
  have hunread : s.linesRead supply 1 = 0 := by decide +kernel
  have hfirst : view (bytes "\x7b\"id\":2,\"ok\":true\x7d") = some (2, true) := by decide +kernel
  have hsecond : view (bytes "\x7b\"id\":3,\"ok\":false\x7d") = some (3, false) := by
    decide +kernel
  obtain ⟨r, hline, hr⟩ := Option.map_eq_some_iff.mp hsecond
  obtain ⟨hid, hok⟩ := Prod.mk.inj hr
  have hanswers : s.Answers supply 1 3 1 r := by
    refine ⟨by omega, ⟨_, rfl, hline, hid⟩, ?_⟩
    intro i line r' _ hi hget hread hid'
    obtain rfl : i = 0 := by omega
    cases hget
    have hview := congrArg (Option.map fun r => (r.id, r.ok)) hread
    rw [show Option.map _ _ = _ from hfirst] at hview
    simp [hid'] at hview
  obtain ⟨hreplies, _⟩ := run_replies ⟨["node"], "mini", .ofNat 5, none⟩ (.ofNat 100) supply
    [.call c, .call c, .clock (.ofNat 105)] c
  obtain ⟨_, hdecided⟩ := hreplies 1 3 hasks
  obtain ⟨hresult, _⟩ := hdecided 1 r hanswers
  refine ⟨hasks, r, hanswers, hok, ?_⟩
  rw [hresult, Reply.given, hok]
  rfl

/-- A command that cannot be handed to the system is a fault of the pattern to whoever asked. A
worker that begins a reply and never ends the line keeps the call for ever, though the time that it
has is over. -/
theorem run_replies_upset :
    let faulted := ofSupply ⟨["no\x00de"], "mini", .ofNat 5, none⟩ (.ofNat 100)
      [.fault "embedded null byte"]
    let begun : Child :=
      { lines := [], output := .endless, input := .ready, killFails := false, lingers := false
        exitCode := none, kills := 0, sent := [] }
    let stalled := ofSupply ⟨["node"], "mini", .ofNat 5, none⟩ (.ofNat 100) [.child begun]
    let c : Call := ⟨.parse, "\"bd\"".toList, .ofNat 100⟩
    (faulted.call c).1 = .error (.unavailable (.spawnFaulted "embedded null byte")) ∧
      (Rejection.unavailable (.spawnFaulted "embedded null byte")).refusal =
        .syntaxError (.ofMessage "embedded null byte") ∧
      (stalled.call c).1 = .error (.unavailable .stalled) :=
  ⟨rfl, rfl, rfl⟩

end Pool

end PatternServer.Worker
