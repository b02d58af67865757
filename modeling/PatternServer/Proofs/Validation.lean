import PatternServer.Proofs.Remarks

/-!
# What validation reports

A validation is the remarks on the literals it checks, one literal after the other, and then the
remarks on the calls. No literal has a say in the remarks on another one: the literals are disjoint,
so the offers of one never stand at a position of another, whatever the parser answers.

The parser is arbitrary. For where remarks lie it may keep a state and fail; its spans may be
negative, reversed or beyond the end.
-/

namespace PatternServer.Diagnostics

set_option autoImplicit false

open PatternServer.Document PatternServer.Notation PatternServer.Vocabulary

namespace Context

variable (c : Context)

theorem mem_checkedLiterals {l : Literal} :
    l ∈ c.checkedLiterals ↔ l ∈ literals c.text ∧ c.skips l = false := by
  simp [checkedLiterals]

theorem checkedLiterals_ordered : c.checkedLiterals.Pairwise fun l k => l.stop < k.start :=
  (literals_ordered c.text).filter _

theorem checkedLiteral_stop {l : Literal} (h : l ∈ c.checkedLiterals) :
    l.stop ≤ c.text.length :=
  Nat.le_of_lt (literal_bounds (c.mem_checkedLiterals.mp h).1).2

theorem takenWithin_empty (l : Literal) : c.TakenWithin l .empty [] :=
  fun _ _ _ => rfl

end Context

/-- Literals that follow each other put in their remarks one after the other. The induction carries
along that the report has no offer within any literal still to come. -/
theorem foldlM_checkOutcome {m : Type → Type} [Monad m] [LawfulMonad m]
    (parse : List Char → m Outcome) (c : Context) {ls : List Literal} {r : Report}
    (hordered : ls.Pairwise fun l k => l.stop < k.start)
    (hstop : ∀ l ∈ ls, l.stop ≤ c.text.length) (hfree : ∀ l ∈ ls, c.TakenWithin l r []) :
    ls.foldlM (fun r l => (fun o => c.checkOutcome l o r) <$> parse l.body) r =
      (fun parts => c.putAll r parts.flatten) <$>
        ls.mapM fun l => outcomeRemarks c.registry l <$> parse l.body := by
  induction ls generalizing r with
  | nil => simp
  | cons l ls ih =>
    obtain ⟨hbefore, hordered⟩ := List.pairwise_cons.mp hordered
    have hl := hstop l List.mem_cons_self
    have hls : ∀ k ∈ ls, k.stop ≤ c.text.length := fun k hk => hstop k (List.mem_cons_of_mem l hk)
    simp only [List.foldlM_cons, List.mapM_cons, bind_map_left, bind_pure_comp, map_bind,
      Functor.map_map]
    apply bind_congr
    intro o
    -- What this literal puts in begins before all the literals behind it.
    have hlater : ∀ k ∈ ls,
        c.TakenWithin k (c.putAll r (outcomeRemarks c.registry l o)) [] := by
      intro k hk
      refine (hfree k (List.mem_cons_of_mem l hk)).putAll_before (hls k hk) ?_
      intro n hn
      have hn' := outcomeRemarks_within c.registry l o n hn
      have hlk := hbefore k hk
      have hstart := hn'.ordered
      have hend := hn'.stop
      omega
    rw [checkOutcome_eq c hl o (hfree l List.mem_cons_self), ih hordered hls hlater]
    simp only [List.flatten_cons, Context.putAll_append]

/-- A validation puts the remarks on the checked literals and then those on the calls into an empty
report. -/
theorem validate_eq {m : Type → Type} [Monad m] [LawfulMonad m] (parse : List Char → m Outcome)
    (c : Context) :
    validate parse c =
      (fun parts => c.putAll .empty (parts.flatten ++ callRemarks c.registry c.text)) <$>
        c.checkedLiterals.mapM fun l => outcomeRemarks c.registry l <$> parse l.body := by
  have hfold := foldlM_checkOutcome parse c c.checkedLiterals_ordered
    (fun l hl => c.checkedLiteral_stop hl) (fun l _ => c.takenWithin_empty l)
  simp only [validate, bind_pure_comp]
  rw [hfold]
  simp only [Functor.map_map, Context.checkCalls, Context.putAll_append]

/-- What is done to the results of each item may be done to all results at the end. -/
theorem mapM_eq_map {m : Type → Type} [Monad m] [LawfulMonad m] {α β γ : Type} (g : β → γ)
    {f : α → m β} {f' : α → m γ} {xs : List α} (h : ∀ x ∈ xs, f' x = g <$> f x) :
    xs.mapM f' = List.map g <$> xs.mapM f := by
  induction xs with
  | nil => simp
  | cons x xs ih =>
    have hx := h x List.mem_cons_self
    have hxs := ih fun y hy => h y (List.mem_cons_of_mem x hy)
    simp only [List.mapM_cons, hx, hxs, bind_map_left, map_bind, bind_pure_comp, Functor.map_map,
      List.map_cons]

/-- The same with the outcome of each literal beside it. What the parser is asked does not depend on
what is remarked. -/
theorem validate_eq_checked {m : Type → Type} [Monad m] [LawfulMonad m]
    (parse : List Char → m Outcome) (c : Context) :
    validate parse c =
      (fun checked => c.putAll .empty
        (checked.flatMap (fun p => outcomeRemarks c.registry p.1 p.2) ++
          callRemarks c.registry c.text)) <$>
        c.checkedLiterals.mapM fun l => (fun o => (l, o)) <$> parse l.body := by
  have hparts : (c.checkedLiterals.mapM fun l => outcomeRemarks c.registry l <$> parse l.body) =
      List.map (fun p => outcomeRemarks c.registry p.1 p.2) <$>
        c.checkedLiterals.mapM fun l => (fun o => (l, o)) <$> parse l.body :=
    mapM_eq_map _ fun l _ => by rw [Functor.map_map]
  rw [validate_eq, hparts, Functor.map_map]
  rfl

/-- The diagnostics of a validation are those of its literals, each checked by itself, and then
those of the calls. -/
theorem validate_compositional {ε : Type} (parse : List Char → Except ε Outcome) (c : Context) :
    (validate parse c).map Report.diagnostics =
      (c.checkedLiterals.mapM fun l =>
        (parse l.body).map fun o => (c.checkOutcome l o .empty).diagnostics).map
      fun parts => parts.flatten ++ (c.checkCalls .empty).diagnostics := by
  have halone : ∀ l ∈ c.checkedLiterals,
      ((parse l.body).map fun o => (c.checkOutcome l o .empty).diagnostics) =
        List.map c.diagnostic <$> outcomeRemarks c.registry l <$> parse l.body := by
    intro l hl
    rw [Functor.map_map]
    change (fun o => _) <$> parse l.body = _
    congr 1
    funext o
    rw [checkOutcome_eq c (c.checkedLiteral_stop hl) o (c.takenWithin_empty l),
      c.diagnostics_putAll]
    rfl
  rw [mapM_eq_map (List.map c.diagnostic) halone]
  change Report.diagnostics <$> validate parse c = _ <$> _ <$> _
  rw [validate_eq, Functor.map_map, Functor.map_map]
  congr 1
  funext parts
  rw [c.diagnostics_putAll, Context.checkCalls, c.diagnostics_putAll, List.map_append,
    List.map_flatten]
  rfl

/-! Where remarks lie. -/

theorem bind_eq_ok {ε α β : Type} {x : Except ε α} {k : α → Except ε β} {b : β}
    (h : (x >>= k) = .ok b) : ∃ a, x = .ok a ∧ k a = .ok b := by
  cases x with
  | error e => cases h
  | ok a => exact ⟨a, rfl, h⟩

/-- Each result of a run over a list is a result of one of its items. -/
theorem mem_run_mapM {σ ε α β : Type} {f : α → StateT σ (Except ε) β} {xs : List α} {s s' : σ}
    {ys : List β} (h : (xs.mapM f).run s = .ok (ys, s')) :
    ∀ y ∈ ys, ∃ x ∈ xs, ∃ t t', (f x).run t = .ok (y, t') := by
  induction xs generalizing s ys with
  | nil =>
    cases h
    simp
  | cons x xs ih =>
    rw [List.mapM_cons, StateT.run_bind] at h
    obtain ⟨⟨y, t⟩, hy, h⟩ := bind_eq_ok h
    rw [StateT.run_bind] at h
    obtain ⟨⟨rest, t'⟩, hrest, h⟩ := bind_eq_ok h
    cases h
    intro z hz
    rcases List.mem_cons.mp hz with rfl | hz
    · exact ⟨x, List.mem_cons_self, s, t, hy⟩
    · obtain ⟨x', hx', hrun⟩ := ih hrest z hz
      exact ⟨x', List.mem_cons_of_mem x hx', hrun⟩

/-- Whatever the parser does, a validation that returns has put in remarks on outcomes of the
checked literals, and those on the calls. -/
theorem validate_run_eq {σ ε : Type} {parse : List Char → StateT σ (Except ε) Outcome}
    {c : Context} {s s' : σ} {r : Report} (h : (validate parse c).run s = .ok (r, s')) :
    ∃ parts : List (List Remark),
      r = c.putAll .empty (parts.flatten ++ callRemarks c.registry c.text) ∧
      ∀ part ∈ parts, ∃ l ∈ c.checkedLiterals, ∃ o, part = outcomeRemarks c.registry l o := by
  rw [validate_eq, StateT.run_map] at h
  obtain ⟨⟨parts, t⟩, hparts, h⟩ := bind_eq_ok h
  cases h
  refine ⟨parts, rfl, ?_⟩
  intro part hpart
  obtain ⟨l, hl, t, t', hrun⟩ := mem_run_mapM hparts part hpart
  rw [StateT.run_map] at hrun
  obtain ⟨⟨o, u⟩, _, ho⟩ := bind_eq_ok hrun
  cases ho
  exact ⟨l, hl, o, rfl⟩

/-- Every diagnostic of a validation that returns lies inside the text and begins before it ends. A
parse error or an unknown sample lies between the quotes of a literal that was not skipped, and an
unknown function on the name of a call, neither more nor less. -/
theorem validate_ranges {σ ε : Type} (parse : List Char → StateT σ (Except ε) Outcome)
    (c : Context) (s s' : σ) (r : Report) (h : (validate parse c).run s = .ok (r, s')) :
    ∀ d ∈ r.diagnostics, ∃ a b : Nat, a ≤ b ∧ b ≤ c.text.length ∧
      d.range = ⟨positionAt c.encoding c.text a, positionAt c.encoding c.text b⟩ ∧
      d.range.start ≤ d.range.stop ∧ d.code.isSome ∧
      (d.code = some .parseError ∨ d.code = some .unknownSample →
        ∃ l ∈ literals c.text, c.skips l = false ∧ l.start ≤ a ∧ b ≤ l.stop) ∧
      (d.code = some .unknownFunction →
        ∃ site ∈ callSites c.text, a = site.start ∧ b = site.start + site.name.length ∧
          (c.text.drop a).take (b - a) = site.name) := by
  obtain ⟨parts, rfl, hparts⟩ := validate_run_eq h
  intro d hd
  rw [c.diagnostics_putAll] at hd
  obtain ⟨m, hm, rfl⟩ := List.mem_map.mp hd
  rcases List.mem_append.mp hm with hm | hm
  · obtain ⟨part, hpart, hm⟩ := List.mem_flatten.mp hm
    obtain ⟨l, hl, o, rfl⟩ := hparts part hpart
    have hw := outcomeRemarks_within c.registry l o m hm
    have hstop := Nat.le_trans hw.stop (c.checkedLiteral_stop hl)
    obtain ⟨hmem, hskip⟩ := c.mem_checkedLiterals.mp hl
    refine ⟨m.start, m.stop, hw.ordered, hstop, rfl, positionAt_le _ _ hw.ordered hstop, rfl,
      fun _ => ⟨l, hmem, hskip, hw.start, hw.stop⟩, ?_⟩
    intro hcode
    rcases hw.code with hc | hc <;> simp [Context.diagnostic, Remark.diagnostic, hc] at hcode
  · obtain ⟨hcode, site, hsite, hstart, hstop⟩ := mem_callRemarks hm
    have hbound := callSite_bound hsite
    have hordered : m.start ≤ m.stop := by omega
    have hle : m.stop ≤ c.text.length := by omega
    refine ⟨m.start, m.stop, hordered, hle, rfl, positionAt_le _ _ hordered hle, rfl, ?_,
      fun _ => ⟨site, hsite, hstart, hstop, ?_⟩⟩
    · simp [Context.diagnostic, Remark.diagnostic, hcode]
    · rw [hstop, hstart, Nat.add_sub_cancel_left]
      exact List.prefix_iff_eq_take.mp (callSite_name hsite) |>.symm

/-- A parser that counts its calls and finds, in any literal, a word that ends before the literal
begins and begins behind its end. -/
def strayParser (_ : List Char) : StateT Nat (Except Unit) Outcome := fun calls =>
  .ok (.success [⟨"atom", "qqqq", ⟨9, -4⟩⟩], calls + 1)

/-- A literal and a call, both with a word that is not known. -/
def strayContext : Context where
  text := "'qqqq'.bnak(".toList
  encoding := .utf8
  registry := { (default : Registry) with functions := [⟨"bank", "", "", []⟩] }

def strayWord : Diagnostic where
  range := ⟨⟨0, 5⟩, ⟨0, 5⟩⟩
  message := "Unknown sample 'qqqq' (may work if loaded dynamically)"
  severity := some .hint
  code := some .unknownSample
  source := some "strudel"

def strayCall : Diagnostic where
  range := ⟨⟨0, 7⟩, ⟨0, 11⟩⟩
  message := "Unknown function 'bnak'. Did you mean: bank?"
  severity := some .warning
  code := some .unknownFunction
  source := some "strudel"

def strayReport : Report where
  diagnostics := [strayWord, strayCall]
  offers := [("0:5", ⟨.unknownSample, some "qqqq", []⟩),
    ("0:7", ⟨.unknownFunction, some "bnak", ["bank"]⟩)]

theorem validate_ranges_stray :
    (validate strayParser strayContext).run 0 = .ok (strayReport, 1) ∧
      strayWord ∈ strayReport.diagnostics ∧ strayWord.code = some .unknownSample ∧
      ∃ a b : Nat, a ≤ b ∧ b ≤ strayContext.text.length ∧
        strayWord.range =
          ⟨positionAt .utf8 strayContext.text a, positionAt .utf8 strayContext.text b⟩ ∧
        ∃ l ∈ literals strayContext.text, strayContext.skips l = false ∧ l.start ≤ a ∧
          b ≤ l.stop := by
  have hrun : (validate strayParser strayContext).run 0 = .ok (strayReport, 1) := by
    decide +kernel
  have hmem : strayWord ∈ strayReport.diagnostics := List.mem_cons_self
  obtain ⟨a, b, hab, hb, hrange, _, _, hliteral, _⟩ :=
    validate_ranges strayParser strayContext 0 1 strayReport hrun strayWord hmem
  exact ⟨hrun, hmem, rfl, a, b, hab, hb, hrange, hliteral (Or.inr rfl)⟩

end PatternServer.Diagnostics
