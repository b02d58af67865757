import PatternServer.Proofs.ReportedVocabulary

/-!
# Registries and their history

What a registry knows after any messages depends on the lists that it was made with and, for each
topic, on the names of the last message about it. Every list is rid of repetitions when it comes in
and once more when the samples are put together. The first time makes no difference to the second:
a name that is dropped early would have been dropped later, for the same name that stands before it.
-/

namespace PatternServer.Vocabulary

set_option autoImplicit false

open PatternServer.Text

/-! Dropping repetitions. -/

/-- The lower-case forms of the names that are not empty. -/
def forms (names : List String) : List String :=
  (names.filter (· ≠ "")).map lowerName

theorem mem_forms {names : List String} {form : String} :
    form ∈ forms names ↔ ∃ name ∈ names, name ≠ "" ∧ lowerName name = form := by
  simp [forms, and_assoc]

section Dedupe
variable {seen seen' : List String} {name : String} {names : List String}

theorem dedupeFrom_skip (h : name = "" ∨ lowerName name ∈ seen) (rest : List String) :
    dedupeFrom seen (name :: rest) = dedupeFrom seen rest := by
  rw [dedupeFrom, if_pos]
  simpa using h

theorem dedupeFrom_keep (hname : name ≠ "") (hnew : lowerName name ∉ seen) (rest : List String) :
    dedupeFrom seen (name :: rest) = name :: dedupeFrom (lowerName name :: seen) rest := by
  rw [dedupeFrom, if_neg]
  simp [hname, hnew]

theorem forms_cons_skip (h : name = "") (rest : List String) :
    forms (name :: rest) = forms rest := by
  simp [forms, h]

theorem forms_cons_keep (h : name ≠ "") (rest : List String) :
    forms (name :: rest) = lowerName name :: forms rest := by
  simp [forms, h]

theorem dedupeFrom_congr (h : ∀ form, form ∈ seen ↔ form ∈ seen') (names : List String) :
    dedupeFrom seen names = dedupeFrom seen' names := by
  induction names generalizing seen seen' with
  | nil => rfl
  | cons name rest ih =>
    by_cases hskip : name = "" ∨ lowerName name ∈ seen
    · rw [dedupeFrom_skip hskip, dedupeFrom_skip (hskip.imp_right (h _).mp), ih h]
    · obtain ⟨hname, hnew⟩ := not_or.mp hskip
      rw [dedupeFrom_keep hname hnew, dedupeFrom_keep hname (mt (h _).mpr hnew)]
      congr 1
      apply ih
      intro form
      rw [List.mem_cons, List.mem_cons, h]

theorem dedupeFrom_append (seen xs ys : List String) :
    dedupeFrom seen (xs ++ ys) = dedupeFrom seen xs ++ dedupeFrom (forms xs ++ seen) ys := by
  induction xs generalizing seen with
  | nil => rfl
  | cons name xs ih =>
    rw [List.cons_append]
    by_cases hname : name = ""
    · rw [dedupeFrom_skip (Or.inl hname), dedupeFrom_skip (Or.inl hname), forms_cons_skip hname, ih]
    · rw [forms_cons_keep hname]
      by_cases hseen : lowerName name ∈ seen
      · rw [dedupeFrom_skip (Or.inr hseen), dedupeFrom_skip (Or.inr hseen), ih]
        congr 1
        apply dedupeFrom_congr
        intro form
        simp only [List.cons_append, List.mem_cons, List.mem_append]
        constructor
        · exact Or.inr
        · rintro (rfl | h)
          · exact Or.inr hseen
          · exact h
      · rw [dedupeFrom_keep hname hseen, dedupeFrom_keep hname hseen, ih, List.cons_append]
        congr 2
        apply dedupeFrom_congr
        intro form
        simp only [List.cons_append, List.mem_cons, List.mem_append]
        exact or_left_comm

/-- What was dropped against some names is dropped against these and more. -/
theorem dedupeFrom_dedupeFrom (h : ∀ form ∈ seen, form ∈ seen') (names : List String) :
    dedupeFrom seen' (dedupeFrom seen names) = dedupeFrom seen' names := by
  induction names generalizing seen seen' with
  | nil => rfl
  | cons name rest ih =>
    by_cases hskip : name = "" ∨ lowerName name ∈ seen
    · rw [dedupeFrom_skip hskip, dedupeFrom_skip (hskip.imp_right (h _)), ih h]
    · obtain ⟨hname, hnew⟩ := not_or.mp hskip
      rw [dedupeFrom_keep hname hnew]
      by_cases hseen : lowerName name ∈ seen'
      · rw [dedupeFrom_skip (Or.inr hseen), dedupeFrom_skip (Or.inr hseen)]
        exact ih (List.forall_mem_cons.mpr ⟨hseen, h⟩)
      · rw [dedupeFrom_keep hname hseen, dedupeFrom_keep hname hseen]
        congr 1
        apply ih
        intro form hform
        rcases List.mem_cons.mp hform with rfl | hform
        · exact List.mem_cons_self
        · exact List.mem_cons_of_mem _ (h form hform)

theorem mem_forms_dedupeFrom {form : String} :
    form ∈ forms (dedupeFrom seen names) ↔ form ∈ forms names ∧ form ∉ seen := by
  induction names generalizing seen with
  | nil => simp [dedupeFrom, forms]
  | cons name rest ih =>
    by_cases hname : name = ""
    · rw [dedupeFrom_skip (Or.inl hname), forms_cons_skip hname, ih]
    · rw [forms_cons_keep hname]
      by_cases hseen : lowerName name ∈ seen
      · rw [dedupeFrom_skip (Or.inr hseen), ih, List.mem_cons]
        constructor
        · exact And.imp_left Or.inr
        · rintro ⟨rfl | hform, hnew⟩
          · exact absurd hseen hnew
          · exact ⟨hform, hnew⟩
      · rw [dedupeFrom_keep hname hseen, forms_cons_keep hname, List.mem_cons, List.mem_cons, ih,
          List.mem_cons, not_or]
        by_cases heq : form = lowerName name
        · simp [heq, hseen]
        · simp [heq]

theorem ne_empty_of_mem_dedupeFrom (h : name ∈ dedupeFrom seen names) : name ≠ "" := by
  induction names generalizing seen with
  | nil => cases h
  | cons other rest ih =>
    by_cases hskip : other = "" ∨ lowerName other ∈ seen
    · rw [dedupeFrom_skip hskip] at h
      exact ih h
    · obtain ⟨hname, hnew⟩ := not_or.mp hskip
      rw [dedupeFrom_keep hname hnew] at h
      rcases List.mem_cons.mp h with rfl | h
      · exact hname
      · exact ih h

theorem dedupeFrom_distinct (seen names : List String) :
    (dedupeFrom seen names).Pairwise fun a b => lowerName a ≠ lowerName b := by
  induction names generalizing seen with
  | nil => exact .nil
  | cons name rest ih =>
    by_cases hskip : name = "" ∨ lowerName name ∈ seen
    · rw [dedupeFrom_skip hskip]
      exact ih seen
    · obtain ⟨hname, hnew⟩ := not_or.mp hskip
      rw [dedupeFrom_keep hname hnew]
      refine List.pairwise_cons.mpr ⟨?_, ih _⟩
      intro other hother heq
      have hform := mem_forms.mpr ⟨other, hother, ne_empty_of_mem_dedupeFrom hother, heq.symm⟩
      exact (mem_forms_dedupeFrom.mp hform).2 List.mem_cons_self

end Dedupe

theorem knows_dedupe_iff {names : List String} {word : String} :
    knows (dedupe names) word = true ↔
      ∃ name ∈ names, name ≠ "" ∧ lowerName name = lowerName word := by
  rw [knows_eq_true_iff, ← mem_forms]
  constructor
  · rintro ⟨name, hname, hform⟩
    have hforms := mem_forms.mpr ⟨name, hname, ne_empty_of_mem_dedupeFrom hname, hform⟩
    exact (mem_forms_dedupeFrom.mp hforms).1
  · intro hform
    obtain ⟨name, hname, _, heq⟩ :=
      mem_forms.mp (mem_forms_dedupeFrom.mpr ⟨hform, List.not_mem_nil⟩)
    exact ⟨name, hname, heq⟩

theorem dedupeFrom_dedupe_append (seen xs ys : List String) :
    dedupeFrom seen (dedupe xs ++ ys) = dedupeFrom seen (xs ++ ys) := by
  rw [dedupeFrom_append, dedupeFrom_append, dedupe,
    dedupeFrom_dedupeFrom (fun _ h => absurd h List.not_mem_nil)]
  congr 1
  apply dedupeFrom_congr
  intro form
  rw [List.mem_append, List.mem_append, mem_forms_dedupeFrom]
  simp

/-- Lists may be rid of repetitions before they are joined. -/
theorem dedupe_dedupe_append (xs ys zs : List String) :
    dedupe (dedupe xs ++ dedupe ys ++ dedupe zs) = dedupe (xs ++ ys ++ zs) := by
  have hlast (seen : List String) : dedupeFrom seen (dedupe zs) = dedupeFrom seen zs := by
    have h := dedupeFrom_dedupe_append seen zs []
    rwa [List.append_nil, List.append_nil] at h
  calc dedupe (dedupe xs ++ dedupe ys ++ dedupe zs)
    _ = dedupeFrom [] (xs ++ (dedupe ys ++ dedupe zs)) := by
      rw [List.append_assoc, dedupe, dedupeFrom_dedupe_append]
    _ = dedupeFrom [] xs ++ dedupeFrom (forms xs ++ []) (ys ++ dedupe zs) := by
      rw [dedupeFrom_append, dedupeFrom_dedupe_append]
    _ = dedupeFrom [] xs ++ dedupeFrom (forms xs ++ []) (ys ++ zs) := by
      rw [dedupeFrom_append _ ys, dedupeFrom_append _ ys, hlast]
    _ = dedupe (xs ++ ys ++ zs) := by
      rw [← dedupeFrom_append, List.append_assoc, dedupe]

theorem dedupe_isPrefix_append (xs ys : List String) : dedupe xs <+: dedupe (xs ++ ys) := by
  rw [dedupe, dedupe, dedupeFrom_append]
  exact List.prefix_append _ _

end PatternServer.Vocabulary

namespace PatternServer.Engine

set_option autoImplicit false

open PatternServer.Text PatternServer.Vocabulary

/-! The last message on each topic. -/

/-- The names of the last message on a topic; none if there is no such message. -/
def lastNames (topic : Topic) (ms : List Message) : List String :=
  ((ms.filter (·.topic = topic)).map (·.names)).getLastD []

theorem foldl_last {α β : Type} (f : α → β) (first : α) (xs : List α) :
    xs.foldl (fun _ x => f x) (f first) = f (xs.getLastD first) := by
  induction xs generalizing first with
  | nil => rfl
  | cons x xs ih => rw [List.foldl_cons, ih, List.getLastD_cons]

theorem fixedPart_registryAfter (r : Registry) (ms : List Message) :
    fixedPart (registryAfter r ms) = fixedPart r := by
  induction ms generalizing r with
  | nil => rfl
  | cons m ms ih => rw [registryAfter_cons, ih, apply_fixedPart]

theorem apply_comm {m m' : Message} (h : m.topic ≠ m'.topic) (r : Registry) :
    m.apply (m'.apply r) = m'.apply (m.apply r) := by
  apply registry_ext
  · intro topic
    simp only [apply_reported]
    by_cases hm : m.topic = topic
    · rw [if_pos hm, if_pos hm, if_neg fun hm' => h (hm.trans hm'.symm)]
    · rw [if_neg hm, if_neg hm]
  · simp only [apply_fixedPart]

section Made
variable (samples banks : List String) (functions : List HostFunction) (nonSample : List String)

theorem reported_registryAfter_ofNames (ms : List Message) (topic : Topic) :
    reported (registryAfter (.ofNames samples banks functions nonSample) ms) topic =
      distinctNames (lastNames topic ms) := by
  have hnone : reported (.ofNames samples banks functions nonSample) topic = distinctNames [] := by
    cases topic <;> rfl
  rw [registryAfter_reported, hnone, foldl_last, lastNames]

theorem defaults_registryAfter_ofNames (ms : List Message) :
    let r := registryAfter (.ofNames samples banks functions nonSample) ms
    r.defaultSamples = dedupe samples ∧ r.defaultBanks = dedupe banks := by
  have hfixed := fixedPart_registryAfter (.ofNames samples banks functions nonSample) ms
  obtain ⟨hsamples, hrest⟩ := Prod.mk.inj hfixed
  exact ⟨hsamples, (Prod.mk.inj hrest).1⟩

theorem samples_registryAfter_ofNames (ms : List Message) :
    (registryAfter (.ofNames samples banks functions nonSample) ms).samples =
      dedupe (samples ++ lastNames .samples ms ++ lastNames .sounds ms) := by
  have hreported := reported_registryAfter_ofNames samples banks functions nonSample ms
  have hsamples := hreported .samples
  have hsounds := hreported .sounds
  simp only [reported, ← dedupe_eq_distinctNames] at hsamples hsounds
  rw [Registry.samples, (defaults_registryAfter_ofNames samples banks functions nonSample ms).1,
    hsamples, hsounds, dedupe_dedupe_append]

/-- The banks that count: those reported last, or the fixed ones if there is none among them. -/
def banksInForce (banks : List String) (ms : List Message) : List String :=
  if distinctNames (lastNames .banks ms) = [] then banks else lastNames .banks ms

theorem banks_registryAfter_ofNames (ms : List Message) :
    (registryAfter (.ofNames samples banks functions nonSample) ms).banks =
      dedupe (banksInForce banks ms) := by
  have hbanks := reported_registryAfter_ofNames samples banks functions nonSample ms .banks
  simp only [reported] at hbanks
  rw [Registry.banks, hbanks, banksInForce,
    (defaults_registryAfter_ofNames samples banks functions nonSample ms).2]
  by_cases hnone : distinctNames (lastNames .banks ms) = []
  · rw [if_pos hnone, if_pos (List.isEmpty_iff.mpr hnone)]
  · rw [if_neg hnone, if_neg (mt List.isEmpty_iff.mp hnone), dedupe_eq_distinctNames]

/-- A registry after any messages. Its samples are those that it was made with, those reported last
and the sounds reported last, in this order, without empty names and without names that differ from
an earlier one in letter case only; so they begin with its own. Its banks are those reported last
without such names, or its own if nothing is left of these. A word is a sample or a bank if it is
one of the names behind these lists, letter case apart. Of the messages on a topic only the last one
counts, and messages on different topics may be exchanged. -/
theorem registryAfter_known_names (ms : List Message) :
    let made : Registry := .ofNames samples banks functions nonSample
    let r := registryAfter made ms
    let names := samples ++ lastNames .samples ms ++ lastNames .sounds ms
    r.samples = distinctNames names ∧ distinctNames samples <+: r.samples ∧
      r.samples.Pairwise (fun a b => lowerName a ≠ lowerName b) ∧
      (∀ w, r.isSample w = true ↔ ∃ name ∈ names, name ≠ "" ∧ lowerName name = lowerName w) ∧
      r.banks = (if distinctNames (lastNames .banks ms) = [] then distinctNames banks
        else distinctNames (lastNames .banks ms)) ∧
      r.banks.Pairwise (fun a b => lowerName a ≠ lowerName b) ∧
      (∀ w, r.isBank w = true ↔
        ∃ name ∈ banksInForce banks ms, name ≠ "" ∧ lowerName name = lowerName w) ∧
      (∀ ms', (∀ topic, lastNames topic ms' = lastNames topic ms) → registryAfter made ms' = r) ∧
      ∀ m m' : Message, m.topic ≠ m'.topic → ∀ r : Registry,
        m.apply (m'.apply r) = m'.apply (m.apply r) := by
  intro made r names
  have hsamples : r.samples = dedupe names :=
    samples_registryAfter_ofNames samples banks functions nonSample ms
  have hbanks : r.banks = dedupe (banksInForce banks ms) :=
    banks_registryAfter_ofNames samples banks functions nonSample ms
  refine ⟨?_, ?_, ?_, ?_, ?_, ?_, ?_, ?_, fun m m' h r => apply_comm h r⟩
  · rw [hsamples, dedupe_eq_distinctNames]
  · rw [hsamples, ← dedupe_eq_distinctNames]
    apply (dedupe_isPrefix_append samples (lastNames .samples ms)).trans
    exact dedupe_isPrefix_append _ _
  · rw [hsamples]
    exact dedupeFrom_distinct [] names
  · intro w
    rw [Registry.isSample, hsamples, knows_dedupe_iff]
  · rw [hbanks, dedupe_eq_distinctNames, banksInForce, apply_ite distinctNames]
  · rw [hbanks]
    exact dedupeFrom_distinct [] _
  · intro w
    rw [Registry.isBank, hbanks, knows_dedupe_iff]
  · intro ms' hlast
    apply registry_ext
    · intro topic
      rw [reported_registryAfter_ofNames, reported_registryAfter_ofNames, hlast]
    · rw [fixedPart_registryAfter, fixedPart_registryAfter]

end Made

end PatternServer.Engine
