import PatternServer.Proofs.WorkerRuns

/-!
# How processes end

A pool has at most one current process. All others should have ended: they have been killed or
waited for, or they ended by themselves. Two ways to let go of a process make sure of nothing: if a
request cannot be written, and if the output ends. The others come to a kill, which a process may
withstand. A process that still runs then is left alive, and stays so until it ends by itself.

What one event can mean for one process is its `Fate`, from which the rest follows.
-/

namespace PatternServer.Worker

set_option autoImplicit false

open PatternServer.Number

/-- A process that still runs after it was killed withstood that, and ran before. -/
theorem Child.withstands_of_isRunning_kill {p : Child} (h : p.kill.isRunning = true) :
    p.withstands = true ∧ p.isRunning = true := by
  cases hstands : p.withstands <;> simp_all [Child.kill, Child.isRunning]

namespace Pool

/-- A process runs and is not the current one. -/
def LeftAlive (s : Pool) (k : Nat) : Prop :=
  s.current ≠ some k ∧ ∃ p, s.child? k = some p ∧ p.isRunning = true

def Ended (s : Pool) (k : Nat) : Prop :=
  ∃ p, s.child? k = some p ∧ p.isRunning = false

/-- A call finds that the process it uses takes no more input or has ended its output. -/
def FindsGone (s : Pool) (c : Call) : Prop :=
  (s.call c).1 = .error (.unavailable .gone) ∨
    ∃ code, (s.call c).1 = .error (.unavailable (.exited code))

/-- A process withstands being killed. -/
def Withstands (s : Pool) (k : Nat) : Prop :=
  ∃ p, s.child? k = some p ∧ p.withstands = true

/-- An event lets go of the process `k` without making sure that it ends: a call finds it gone, or
it withstands being killed at a call that gives it up or when the pool is closed. -/
inductive LetsGo (s : Pool) (k : Nat) : PoolEvent → Prop where
  | gone {c : Call} (h : s.FindsGone c) : LetsGo s k (.call c)
  | given {c : Call} (h : s.Discards c) (hkill : (s.call c).2.Withstands k) : LetsGo s k (.call c)
  | closed (hkill : s.Withstands k) : LetsGo s k .close

/-- An event lets go of the process `k`, which was the current one or has been started by it, and
leaves it alive. -/
structure Abandons (s : Pool) (e : PoolEvent) (k : Nat) : Prop where
  cause : s.LetsGo k e
  used : s.current = some k ∨ s.child? k = none
  alive : (s.step e).LeftAlive k

theorem Ended.not_leftAlive {s : Pool} {k : Nat} (h : s.Ended k) : ¬ s.LeftAlive k := by
  rintro ⟨_, p, hp, hrunning⟩
  obtain ⟨q, hq, hended⟩ := h
  cases hp.symm.trans hq
  cases hended.symm.trans hrunning

/-- What an event means for the process `k`. -/
inductive Fate (s : Pool) (k : Nat) (e : PoolEvent) : Prop where
  | kept (halive : (s.step e).LeftAlive k ↔ s.LeftAlive k)
      (hended : s.Ended k → (s.step e).Ended k)
  | ended (h : (s.step e).Ended k) (hcause : ¬ s.LeftAlive k ∨ ∃ code, e = .exit k code)
  | abandoned (hrunning : ¬ s.Ended k) (h : s.Abandons e k)

/-- A process that is not touched is as alive as before. -/
theorem Fate.of_child?_eq {s : Pool} {k : Nat} {e : PoolEvent}
    (hchild : (s.step e).child? k = s.child? k)
    (hcurrent : ∀ p, s.child? k = some p → p.isRunning = true →
      ((s.step e).current = some k ↔ s.current = some k)) : Fate s k e := by
  refine .kept ?_ ?_
  · unfold LeftAlive
    rw [hchild]
    constructor
    · rintro ⟨hnot, p, hp, hrunning⟩
      exact ⟨fun h => hnot ((hcurrent p hp hrunning).mpr h), p, hp, hrunning⟩
    · rintro ⟨hnot, p, hp, hrunning⟩
      exact ⟨fun h => hnot ((hcurrent p hp hrunning).mp h), p, hp, hrunning⟩
  · unfold Ended
    rw [hchild]
    exact id

theorem ended_exit {s : Pool} {k : Nat} {p : Child} (hp : s.child? k = some p) (code : Int) :
    (s.step (.exit k code)).Ended k := by
  rw [show s.step (.exit k code) = _ from modify_eq_set hp _]
  exact ⟨_, child?_set hp, rfl⟩

theorem fate_exit (s : Pool) (k j : Nat) (code : Int) : Fate s k (.exit j code) := by
  rcases s.exit_cases j code with ⟨heq, _⟩ | ⟨p, hp, heq⟩
  · have hsame : s.step (.exit j code) = s := heq
    exact .of_child?_eq (by rw [hsame]) fun _ _ _ => by rw [hsame]
  · by_cases hj : j = k
    · subst hj
      exact .ended (ended_exit hp code) (Or.inr ⟨code, rfl⟩)
    · have hset : (s.step (.exit j code)).children =
          s.children.set j { p with exitCode := some code } := congrArg (·.children) heq
      exact .of_child?_eq (child?_set_ne hset hj) fun _ _ _ => Iff.rfl

theorem fate_close (s : Pool) (k : Nat) : Fate s k .close := by
  rcases s.close_cases with ⟨heq, hnone⟩ | ⟨j, p, p', hcurrent, hp, heq, hp'⟩
  · have hstep : s.step .close = { s with current := none } := heq
    refine .of_child?_eq (by rw [hstep]; rfl) fun p hp _ => ?_
    rw [hstep]
    exact iff_of_false (by simp) fun hk => hnone k p hk hp
  · have hstep : s.step .close = s.leaving j p' := heq
    by_cases hj : j = k
    · subst hj
      have hafter : (s.step .close).child? j = some p' := by
        rw [hstep]
        exact child?_set hp
      cases hrunning : p'.isRunning with
      | false => exact .ended ⟨p', hafter, hrunning⟩ (Or.inl fun halive => halive.1 hcurrent)
      | true =>
        -- Only a process that withstands being killed runs on.
        rcases hp' with rfl | rfl
        · obtain ⟨hstands, hwas⟩ := Child.withstands_of_isRunning_kill hrunning
          refine .abandoned ?_ ⟨.closed ⟨p, hp, hstands⟩, Or.inl hcurrent, ?_, _, hafter, hrunning⟩
          · rintro ⟨q, hq, hended⟩
            cases hp.symm.trans hq
            cases hended.symm.trans hwas
          · rw [hstep]
            simp [leaving]
        · cases hrunning
    · refine .of_child?_eq (by rw [hstep]; exact child?_set_ne rfl hj) fun _ _ _ => ?_
      rw [hstep, hcurrent]
      exact iff_of_false (by simp [leaving]) (by simpa using hj)

/-- What becomes of a process that is used: it stays the current one, is killed unless it withstands
that, or is let go of as it is. -/
theorem Used.ends {s s' : Pool} {c : Call} {k : Nat} {p : Child}
    {result : Except Unavailable Reply} (hp : s.child? k = some p)
    (hcurrent : s.current = some k) (h : Used s c k p result s') :
    (∀ j, k ≠ j → s'.child? j = s.child? j) ∧ ∃ p', s'.child? k = some p' ∧
      (s'.current = some k ∨ s'.current = none ∧
        (p'.isRunning = false ∨ (result = .error .gone ∨ ∃ code, result = .error (.exited code)) ∨
          p'.withstands = true ∧ ∃ e, result = .error e ∧ e.isDiscard = true)) := by
  have hset : ∀ {p'}, s'.children = s.children.set k p' →
      (∀ j, k ≠ j → s'.child? j = s.child? j) ∧ s'.child? k = some p' := by
    intro p' hchildren
    refine ⟨fun j hj => child?_set_ne hchildren hj, ?_⟩
    have hchild := child?_set (q := p') hp
    rwa [← hchildren] at hchild
  have hkilled : ∀ (q : Child) {e : Unavailable}, e.isDiscard = true → result = .error e →
      q.kill.isRunning = false ∨ (result = .error .gone ∨ ∃ code, result = .error (.exited code)) ∨
        q.kill.withstands = true ∧ ∃ e, result = .error e ∧ e.isDiscard = true := by
    intro q e he hresult
    cases hrunning : q.kill.isRunning with
    | false => exact Or.inl rfl
    | true =>
      exact Or.inr (Or.inr ⟨(Child.withstands_of_isRunning_kill hrunning).1, e, hresult, he⟩)
  cases h with
  | noPipes => exact ⟨(hset rfl).1, _, (hset rfl).2, Or.inr ⟨rfl, hkilled p rfl rfl⟩⟩
  | unheard _ _ _ he =>
    refine ⟨(hset rfl).1, _, (hset rfl).2, Or.inr ⟨rfl, hkilled _ ?_ rfl⟩⟩
    rcases he with rfl | ⟨reason, rfl⟩ <;> rfl
  | gone => exact ⟨(hset rfl).1, _, (hset rfl).2, Or.inr ⟨rfl, Or.inr (Or.inl (Or.inl rfl))⟩⟩
  | ended =>
    exact ⟨(hset rfl).1, _, (hset rfl).2, Or.inr ⟨rfl, Or.inr (Or.inl (Or.inr ⟨_, rfl⟩))⟩⟩
  | answered | surprised => exact ⟨(hset rfl).1, _, (hset rfl).2, Or.inl hcurrent⟩
  | blocked => exact ⟨fun _ _ => rfl, p, hp, Or.inl hcurrent⟩

/-- A process to write to is the current one, or there was no such process before. -/
theorem Ready.used {s t : Pool} {k : Nat} {p : Child} (h : Ready s k p t) :
    (s.current = some k ∨ s.child? k = none) ∧ ¬ s.LeftAlive k ∧ ¬ s.Ended k := by
  cases h with
  | running _ hcurrent hp hrunning =>
    refine ⟨Or.inl hcurrent, fun halive => halive.1 hcurrent, ?_⟩
    rintro ⟨q, hq, hended⟩
    cases hp.symm.trans hq
    cases hended.symm.trans hrunning
  | started =>
    have hnew : s.child? s.children.length = none := List.getElem?_eq_none (Nat.le_refl _)
    refine ⟨Or.inr hnew, ?_, ?_⟩
    · rintro ⟨_, q, hq, _⟩
      cases hnew.symm.trans hq
    · rintro ⟨q, hq, _⟩
      cases hnew.symm.trans hq

/-- No other process is a current one that runs. -/
theorem Ready.current_ne {s t : Pool} {j k : Nat} {p q : Child} (h : Ready s k p t) (hne : k ≠ j)
    (hq : s.child? j = some q) (hrunning : q.isRunning = true) : s.current ≠ some j := by
  intro hj
  cases h with
  | running _ hcurrent => exact hne (Option.some.inj (hcurrent.symm.trans hj))
  | started hmay => exact not_mayStart_of_running hj hq hrunning hmay

/-- A call touches the process that it uses, and no other. -/
theorem fate_call (s : Pool) (k : Nat) (c : Call) : Fate s k (.call c) := by
  obtain ⟨result, hresult, hasked⟩ := s.exists_asked c
  generalize hs' : (s.call c).2 = s' at hasked
  have hstep : s.step (.call c) = s' := hs'
  cases hasked with
  | unready h =>
    have hsame : s'.child? k = s.child? k ∧ s'.current = s.current := by
      cases h <;> exact ⟨rfl, rfl⟩
    refine .of_child?_eq (by rw [hstep]; exact hsame.1) fun _ _ _ => ?_
    rw [hstep, hsame.2]
  | @used j p t _ _ hready hused =>
    obtain ⟨hothers, p', hp', hends⟩ := hused.ends hready.child? hready.current
    by_cases hj : j = k
    · subst hj
      obtain ⟨hwas, hnotAlive, hnotEnded⟩ := hready.used
      rcases hends with hcurrent | ⟨hcurrent, hended | hcause⟩
      · refine .kept (iff_of_false ?_ hnotAlive) fun h => absurd h hnotEnded
        rw [hstep]
        exact fun halive => halive.1 hcurrent
      · exact .ended ⟨p', hstep ▸ hp', hended⟩ (Or.inl hnotAlive)
      · cases hrunning : p'.isRunning with
        | false => exact .ended ⟨p', hstep ▸ hp', hrunning⟩ (Or.inl hnotAlive)
        | true =>
          refine .abandoned hnotEnded ⟨?_, hwas, ?_⟩
          · rcases hcause with hgone | ⟨hstands, e, rfl, hdiscard⟩
            · refine .gone ?_
              simp only [FindsGone, hresult, outcome_eq_unavailable_iff]
              exact hgone
            · exact .given ⟨e, hresult, hdiscard⟩ ⟨p', hs' ▸ hp', hstands⟩
          · rw [hstep]
            exact ⟨by rw [hcurrent]; simp, p', hp', hrunning⟩
    · refine .of_child?_eq (by rw [hstep, hothers k hj, hready.child?_of_ne hj]) ?_
      intro q hq hrunning
      refine iff_of_false ?_ (hready.current_ne hj hq hrunning)
      rw [hstep]
      rcases hends with hcurrent | ⟨hcurrent, _⟩ <;> rw [hcurrent]
      · exact fun hk => hj (Option.some.inj hk)
      · simp

theorem fate (s : Pool) (k : Nat) (e : PoolEvent) : Fate s k e := by
  cases e with
  | call c => exact fate_call s k c
  | close => exact fate_close s k
  | clock now => exact .of_child?_eq rfl fun _ _ _ => Iff.rfl
  | exit j code => exact fate_exit s k j code

/-! From one event to the next. -/

theorem Ended.step {s : Pool} {k : Nat} (h : s.Ended k) (e : PoolEvent) : (s.step e).Ended k := by
  cases s.fate k e with
  | kept _ hended => exact hended h
  | ended hended => exact hended
  | abandoned hrunning => exact absurd h hrunning

/-- A process that is left alive is not cared for any more. -/
theorem LeftAlive.step {s : Pool} {k : Nat} (h : s.LeftAlive k) {e : PoolEvent}
    (he : ∀ code, e ≠ .exit k code) : (s.step e).LeftAlive k := by
  cases s.fate k e with
  | kept halive => exact halive.mpr h
  | ended _ hcause =>
    rcases hcause with hnot | ⟨code, hexit⟩
    · exact absurd h hnot
    · exact absurd hexit (he code)
  | abandoned _ habandons => exact habandons.alive

theorem LeftAlive.run {s : Pool} {k : Nat} (h : s.LeftAlive k) {events : List PoolEvent}
    (hexit : ∀ code, .exit k code ∉ events) : (s.run events).LeftAlive k := by
  induction events generalizing s with
  | nil => exact h
  | cons e events ih =>
    refine ih (h.step fun code he => ?_) fun code hmem => ?_
    · exact hexit code (he ▸ List.mem_cons_self)
    · exact hexit code (List.mem_cons_of_mem e hmem)

theorem abandons_of_leftAlive {s : Pool} {k : Nat} {e : PoolEvent} (hbefore : ¬ s.LeftAlive k)
    (hafter : (s.step e).LeftAlive k) : s.Abandons e k := by
  cases s.fate k e with
  | kept halive => exact absurd (halive.mp hafter) hbefore
  | ended hended => exact absurd hafter hended.not_leftAlive
  | abandoned _ habandons => exact habandons

/-- A process that is left alive has not ended by itself in the meantime. -/
theorem LeftAlive.exit_notMem {s : Pool} {k : Nat} {events : List PoolEvent} (hs : s.LeftAlive k)
    (h : (s.run events).LeftAlive k) (code : Int) : .exit k code ∉ events := by
  intro hmem
  obtain ⟨before, rest, rfl⟩ := List.append_of_mem hmem
  have hmiddle : (s.run before).LeftAlive k ∨ (s.run before).Ended k := by
    refine run_preserves (P := fun t => t.LeftAlive k ∨ t.Ended k) (fun t e ht => ?_) (Or.inl hs) _
    cases t.fate k e with
    | kept halive hended => exact ht.imp halive.mpr hended
    | ended hended => exact Or.inr hended
    | abandoned _ habandons => exact Or.inl habandons.alive
  have hexit : ((s.run before).step (.exit k code)).Ended k := by
    rcases hmiddle with ⟨_, p, hp, _⟩ | hended
    · exact ended_exit hp code
    · exact hended.step _
  have hend := run_preserves (fun t e (ht : t.Ended k) => ht.step e) hexit rest
  rw [run_append] at h
  exact hend.not_leftAlive h

/-- The processes other than the current one, over the life of a pool. One of them has no exit code
exactly if a call found that it takes no more input or has ended its output and left it alive then,
or it withstood being killed when it was given up or when the pool was closed, and it has not ended
by itself since. -/
theorem run_ends (launch : Launch) (clock : Double) (supply : List Supply)
    (events : List PoolEvent) {k : Nat} {p : Child} :
    let start := ofSupply launch clock supply
    let s := start.run events
    s.child? k = some p → s.current ≠ some k →
      (p.exitCode = none ↔
        ∃ before e rest, events = before ++ e :: rest ∧ (start.run before).Abandons e k ∧
          ∀ code, .exit k code ∉ rest) := by
  intro start s hp hcurrent
  have halive : p.exitCode = none ↔ s.LeftAlive k := by
    rw [← Option.isNone_iff_eq_none]
    refine ⟨fun h => ⟨hcurrent, p, hp, h⟩, ?_⟩
    rintro ⟨_, q, hq, hrunning⟩
    cases hp.symm.trans hq
    exact hrunning
  have hrun : ∀ before e rest, events = before ++ e :: rest →
      s = ((start.run before).step e).run rest := by
    rintro before e rest rfl
    exact start.run_append before (e :: rest)
  rw [halive]
  constructor
  · intro h
    have hstart : ¬ start.LeftAlive k := by
      rintro ⟨_, q, hq, _⟩
      cases hq
    obtain ⟨before, e, rest, hevents, hbefore, hafter⟩ :=
      exists_step_of_run (P := fun t => t.LeftAlive k) hstart h
    rw [hrun before e rest hevents] at h
    exact ⟨before, e, rest, hevents, abandons_of_leftAlive hbefore hafter, hafter.exit_notMem h⟩
  · rintro ⟨before, e, rest, hevents, habandons, hexit⟩
    rw [hrun before e rest hevents]
    exact LeftAlive.run habandons.alive hexit

/-- A silent process is killed. The next one ends its output and runs on, though the pool is closed
after that. -/
theorem run_ends_of_two :
    let silent : Child :=
      { lines := [], output := .silent, input := .ready, killFails := false, lingers := false
        exitCode := none, kills := 0, sent := [] }
    let ending : Child := { silent with output := .readable }
    let start := ofSupply ⟨["node"], "mini", .ofNat 5, none⟩ (.ofNat 100)
      [.child silent, .child ending]
    let c : Call := ⟨.parse, "\"bd\"".toList, .ofNat 100⟩
    let events := [.call c, .clock (.ofNat 105), .call c, .close]
    let s := start.run events
    s.current = none ∧ (s.child? 0).map (·.exitCode) = some (some Child.killedCode) ∧
      (s.child? 1).map (·.exitCode) = some none ∧
      ∃ before e rest, events = before ++ e :: rest ∧ (start.run before).Abandons e 1 ∧
        ∀ code, .exit 1 code ∉ rest := by
  intro silent ending start c events s
  have hcurrent : s.current = none := by decide +kernel
  have hsecond : (s.child? 1).map (·.exitCode) = some none := by decide +kernel
  refine ⟨hcurrent, by decide +kernel, hsecond, ?_⟩
  obtain ⟨q, hq, hruns⟩ := Option.map_eq_some_iff.mp hsecond
  have hnot : s.current ≠ some 1 := by rw [hcurrent]; simp
  exact (run_ends ⟨["node"], "mini", .ofNat 5, none⟩ (.ofNat 100) _ events hq hnot).mp hruns

/-- A process that has ended its output runs on without being the current one. -/
theorem run_ends_left_alive :
    let p : Child :=
      { lines := [], output := .readable, input := .ready, killFails := false, lingers := false
        exitCode := none, kills := 0, sent := [] }
    let start := ofSupply ⟨["node"], "mini", .ofNat 5, none⟩ (.ofNat 100) [.child p]
    let s := start.run [.call ⟨.parse, "\"bd\"".toList, .ofNat 100⟩]
    s.current = none ∧ s.children.map (fun q => (q.exitCode, q.kills)) = [(none, 0)] := by
  decide +kernel

end Pool

end PatternServer.Worker
