import PatternServer.Proofs.Validation

/-!
# Validation under a growing vocabulary

A registry that knows more samples and banks brings no new complaint: where a sample is unknown to
it, one was unknown before. The complaint itself need not be the old one. Of the words of a body
that was not parsed only the first unknown one at an offset is remarked on, so a word that has
become known may give way to another one that begins there. What is said of parse errors and
of calls stays as it is.
-/

namespace PatternServer.Vocabulary

set_option autoImplicit false

open PatternServer.Text

theorem knows_of_all_known {names names' : List String}
    (h : ∀ name ∈ names, knows names' name = true) {word : String}
    (hw : knows names word = true) : knows names' word = true := by
  obtain ⟨name, hname, heq⟩ := knows_eq_true_iff.mp hw
  obtain ⟨name', hname', heq'⟩ := knows_eq_true_iff.mp (h name hname)
  exact knows_eq_true_iff.mpr ⟨name', hname', heq'.trans heq⟩

/-- The second registry has the functions of the first, and knows in any spelling every sample and
every bank that the first one has. -/
structure Registry.Extends (r s : Registry) : Prop where
  functions : s.functions = r.functions
  nonSample : ∀ name, s.isNonSampleFunction name = r.isNonSampleFunction name
  samples : ∀ name ∈ r.samples, s.isSample name = true
  banks : ∀ name ∈ r.banks, s.isBank name = true

end PatternServer.Vocabulary

namespace PatternServer.Diagnostics

set_option autoImplicit false

open PatternServer.Document PatternServer.Notation PatternServer.Vocabulary

/-! The remarks under two registries. -/

/-- Remarks under a registry and under one that knows more. -/
structure Outgrown (ms ns : List Remark) : Prop where
  samples : ∀ n ∈ ns, n.code = .unknownSample →
    ∃ m ∈ ms, m.code = .unknownSample ∧ m.start = n.start
  others : ns.filter (·.code ≠ .unknownSample) = ms.filter (·.code ≠ .unknownSample)

namespace Outgrown

theorem refl (ms : List Remark) : Outgrown ms ms :=
  ⟨fun m hm hcode => ⟨m, hm, hcode, rfl⟩, rfl⟩

theorem of_samples {ms ns : List Remark} (hms : ∀ m ∈ ms, m.code = .unknownSample)
    (hns : ∀ n ∈ ns, n.code = .unknownSample) (h : ∀ n ∈ ns, ∃ m ∈ ms, m.start = n.start) :
    Outgrown ms ns := by
  constructor
  · intro n hn _
    obtain ⟨m, hm, hstart⟩ := h n hn
    exact ⟨m, hm, hms m hm, hstart⟩
  · rw [List.filter_eq_nil_iff.mpr (by simpa using hns),
      List.filter_eq_nil_iff.mpr (by simpa using hms)]

theorem append {ms ns ms' ns' : List Remark} (h : Outgrown ms ns) (h' : Outgrown ms' ns') :
    Outgrown (ms ++ ms') (ns ++ ns') := by
  constructor
  · intro n hn hcode
    rcases List.mem_append.mp hn with hn | hn
    · obtain ⟨m, hm, hm'⟩ := h.samples n hn hcode
      exact ⟨m, List.mem_append_left _ hm, hm'⟩
    · obtain ⟨m, hm, hm'⟩ := h'.samples n hn hcode
      exact ⟨m, List.mem_append_right _ hm, hm'⟩
  · rw [List.filter_append, List.filter_append, h.others, h'.others]

theorem flatMap {α : Type} {f g : α → List Remark} (h : ∀ x, Outgrown (f x) (g x))
    (xs : List α) : Outgrown (xs.flatMap f) (xs.flatMap g) := by
  induction xs with
  | nil => exact refl []
  | cons x xs ih => exact (h x).append ih

end Outgrown

section Extends
variable {r s : Registry}

theorem isKnownAtom_of_extends (h : r.Extends s) {word : String}
    (hw : isKnownAtom r word = true) : isKnownAtom s word = true := by
  have hsample : r.isSample word = true → s.isSample word = true := knows_of_all_known h.samples
  have hbank : r.isBank word = true → s.isBank word = true := knows_of_all_known h.banks
  simp only [isKnownAtom, Bool.or_eq_true] at hw ⊢
  -- Everything but the two middle alternatives is fixed.
  apply hw.imp_left
  apply Or.imp_left
  apply Or.imp_left
  apply Or.imp_left
  exact Or.imp (Or.imp_right hsample) hbank

theorem isKnownAtom_eq_false_of_extends (h : r.Extends s) {word : String}
    (hw : isKnownAtom s word = false) : isKnownAtom r word = false := by
  rw [← Bool.not_eq_true] at hw ⊢
  exact mt (isKnownAtom_of_extends h) hw

theorem outgrown_leaves (h : r.Extends s) (l : Literal) (leaves : List Leaf) :
    Outgrown (leaves.filterMap (leafRemark? r l)) (leaves.filterMap (leafRemark? s l)) := by
  apply Outgrown.of_samples (fun m hm => (leafRemarks_onUnknown r l leaves m hm).code)
    (fun n hn => (leafRemarks_onUnknown s l leaves n hn).code)
  intro n hn
  obtain ⟨leaf, hmem, hleaf⟩ := List.mem_filterMap.mp hn
  obtain ⟨hkind, hunknown, rfl⟩ := leafRemark?_eq_some_iff.mp hleaf
  have hunknown' := isKnownAtom_eq_false_of_extends h hunknown
  exact ⟨_, List.mem_filterMap.mpr
    ⟨leaf, hmem, leafRemark?_eq_some_iff.mpr ⟨hkind, hunknown', rfl⟩⟩, rfl⟩

theorem outgrown_fallback (h : r.Extends s) (l : Literal) (taken : List Nat)
    (tokens : List (Nat × List Char)) :
    Outgrown (fallbackRemarks r l taken tokens) (fallbackRemarks s l taken tokens) := by
  apply Outgrown.of_samples (fun m hm => (fallbackRemarks_onUnknown r l taken tokens m hm).code)
    (fun n hn => (fallbackRemarks_onUnknown s l taken tokens n hn).code)
  intro n hn
  obtain ⟨hfree, t, ht, hunknown, hstart⟩ :=
    (exists_fallbackRemark_at_iff s l taken tokens n.start).mp ⟨n, hn, rfl⟩
  apply (exists_fallbackRemark_at_iff r l taken tokens n.start).mpr
  exact ⟨hfree, t, ht, isKnownAtom_eq_false_of_extends h hunknown, hstart⟩

theorem outgrown_outcome (h : r.Extends s) (l : Literal) (o : Outcome) :
    Outgrown (outcomeRemarks r l o) (outcomeRemarks s l o) := by
  cases o with
  | success leaves => exact outgrown_leaves h l leaves
  | failure f =>
    cases hspan : f.span with
    | some span =>
      simp only [outcomeRemarks, hspan]
      exact Outgrown.refl _
    | none =>
      simp only [outcomeRemarks, hspan]
      split
      · exact (Outgrown.refl [_]).append (outgrown_fallback h l _ _)
      · exact outgrown_fallback h l _ _

theorem callRemarks_of_extends (h : r.Extends s) (text : List Char) :
    callRemarks s text = callRemarks r text := by
  have hknown : s.isFunction = r.isFunction := by
    funext name
    simp only [Registry.isFunction, h.functions]
  have hnames : s.functionNames = r.functionNames := by
    simp only [Registry.functionNames, h.functions]
  have hsite : Remark.unknownFunction? s = Remark.unknownFunction? r := by
    funext site
    simp only [Remark.unknownFunction?, hknown, hnames]
  rw [callRemarks, callRemarks, hsite]

/-- Which literals are checked is a matter of functions only. -/
theorem checkedLiterals_of_extends (h : r.Extends s) (text : List Char) (e : Encoding) :
    (⟨text, e, s⟩ : Context).checkedLiterals = (⟨text, e, r⟩ : Context).checkedLiterals := by
  simp only [Context.checkedLiterals, Context.skips, h.nonSample]

end Extends

theorem Context.filter_diagnostics (c : Context) (ms : List Remark) :
    (ms.map c.diagnostic).filter (·.code ≠ some .unknownSample) =
      (ms.filter (·.code ≠ .unknownSample)).map c.diagnostic := by
  rw [List.filter_map]
  congr 2
  funext m
  exact decide_eq_decide.mpr (not_congr Option.some_inj)

/-- Validations of one text under a registry and under one that knows more fail alike, or else every
unknown sample of the second begins where the first has an unknown sample, and both have the same
parse errors and unknown functions in the same order. -/
theorem validate_outgrown {ε : Type} (parse : List Char → Except ε Outcome) (text : List Char)
    (e : Encoding) (r s : Registry) (h : r.Extends s) :
    (∃ err, validate parse ⟨text, e, r⟩ = .error err ∧
      validate parse ⟨text, e, s⟩ = .error err) ∨
    ∃ a b, validate parse ⟨text, e, r⟩ = .ok a ∧ validate parse ⟨text, e, s⟩ = .ok b ∧
      (∀ d ∈ b.diagnostics, d.code = some .unknownSample →
        ∃ d' ∈ a.diagnostics, d'.code = some .unknownSample ∧ d'.range.start = d.range.start) ∧
      b.diagnostics.filter (·.code ≠ some .unknownSample) =
        a.diagnostics.filter (·.code ≠ some .unknownSample) := by
  have hr := validate_eq_checked parse ⟨text, e, r⟩
  have hs := validate_eq_checked parse ⟨text, e, s⟩
  rw [checkedLiterals_of_extends h text e] at hs
  cases hchecked : (⟨text, e, r⟩ : Context).checkedLiterals.mapM
      fun l => (fun o => (l, o)) <$> parse l.body with
  | error err =>
    rw [hchecked] at hr hs
    exact Or.inl ⟨err, hr, hs⟩
  | ok checked =>
    rw [hchecked] at hr hs
    have hgrown := (Outgrown.flatMap (fun p : Literal × Outcome => outgrown_outcome h p.1 p.2)
      checked).append (Outgrown.refl (callRemarks r text))
    refine Or.inr ⟨_, _, hr, hs, ?_, ?_⟩
    · intro d hd hcode
      rw [callRemarks_of_extends h, Context.diagnostics_putAll] at hd
      obtain ⟨n, hn, rfl⟩ := List.mem_map.mp hd
      obtain ⟨m, hm, hcode', hstart⟩ := hgrown.samples n hn (Option.some.inj hcode)
      refine ⟨(⟨text, e, r⟩ : Context).diagnostic m, ?_, congrArg some hcode', ?_⟩
      · rw [Context.diagnostics_putAll]
        exact List.mem_map_of_mem hm
      · exact congrArg (fun a : Nat => positionAt e text a) hstart
    · rw [callRemarks_of_extends h, Context.diagnostics_putAll, Context.diagnostics_putAll]
      have hothers := congrArg (List.map (⟨text, e, r⟩ : Context).diagnostic) hgrown.others
      rw [← Context.filter_diagnostics, ← Context.filter_diagnostics] at hothers
      exact hothers

/-- Two words that begin at one offset. While neither is known, the second one is passed over; when
the first becomes known, the second is remarked on in its place. -/
theorem validate_outgrown_gives_way :
    let parse := parseWith fun _ => .error (.unavailable "")
    let text := "'zzz zz'".toList
    let s : Registry := { (default : Registry) with dynamicSamples := ["zzz"] }
    (default : Registry).Extends s ∧
      ∃ a b, validate parse ⟨text, .utf16, default⟩ = .ok a ∧
        validate parse ⟨text, .utf16, s⟩ = .ok b ∧
        a.offers.map (fun o => (o.1, o.2.word)) = [("0:1", some "zzz")] ∧
        b.offers.map (fun o => (o.1, o.2.word)) = [("0:1", some "zz")] ∧
        ∀ d ∈ b.diagnostics, d.code = some .unknownSample →
          ∃ d' ∈ a.diagnostics, d'.code = some .unknownSample ∧
            d'.range.start = d.range.start := by
  intro parse text s
  have hextends : (default : Registry).Extends s :=
    ⟨rfl, fun _ => rfl, fun _ h => absurd h List.not_mem_nil,
      fun _ h => absurd h List.not_mem_nil⟩
  have hwords : ∀ registry word,
      ((validate parse ⟨text, .utf16, registry⟩).toOption.map
        fun r => r.offers.map fun o => (o.1, o.2.word)) = some [("0:1", some word)] →
      ∀ r, validate parse ⟨text, .utf16, registry⟩ = .ok r →
        r.offers.map (fun o => (o.1, o.2.word)) = [("0:1", some word)] := by
    intro registry word h r hr
    rw [hr] at h
    exact Option.some.inj h
  rcases validate_outgrown parse text .utf16 default s hextends with
    ⟨err, herr, _⟩ | ⟨a, b, ha, hb, hsamples, _⟩
  · have hok : (validate parse ⟨text, .utf16, default⟩).isOk = true := by decide +kernel
    rw [herr] at hok
    cases hok
  · exact ⟨hextends, a, b, ha, hb, hwords default "zzz" (by decide +kernel) a ha,
      hwords s "zz" (by decide +kernel) b hb, hsamples⟩

end PatternServer.Diagnostics
