import PatternServer.Diagnostics.Validate
import PatternServer.Proofs.PositionOrder
import PatternServer.Proofs.Scanning

/-!
# The remarks on one literal

What checking a literal puts into a report is told here as a list of remarks, by offsets alone: the
offsets at which remarks begin stand in for the table of offers, and neither positions nor an
encoding come in. The check puts exactly these remarks into any report that has no offer within the
literal yet, and each of them lies within the literal.

That the literals before leave no offer within it is not shown here.
-/

namespace PatternServer.Diagnostics

set_option autoImplicit false

open PatternServer.Document PatternServer.Notation PatternServer.Vocabulary

namespace Remark

section UnknownSample
variable (registry : Registry) (word : String) (a b : Nat)

@[simp] theorem unknownSample_start : (unknownSample registry word a b).start = a := rfl

@[simp] theorem unknownSample_stop : (unknownSample registry word a b).stop = b := rfl

end UnknownSample

/-- The remark is on a word of a literal that the registry does not know. -/
def OnUnknown (registry : Registry) (m : Remark) : Prop :=
  ∃ word a b, isKnownAtom registry word = false ∧ m = unknownSample registry word a b

theorem OnUnknown.code {registry : Registry} {m : Remark} (h : m.OnUnknown registry) :
    m.code = .unknownSample := by
  obtain ⟨word, a, b, _, rfl⟩ := h
  rfl

/-- The remark is about a literal and lies between its quotes. -/
structure Within (m : Remark) (l : Literal) : Prop where
  code : m.code = .parseError ∨ m.code = .unknownSample
  start : l.start ≤ m.start
  ordered : m.start ≤ m.stop
  stop : m.stop ≤ l.stop

end Remark

/-! Reports. -/

namespace Report

theorem find?_putOffer (key key' : String) (offer : Offer) (os : List (String × Offer)) :
    (putOffer key offer os).find? (fun o => o.1 == key') =
      if key = key' then some (key, offer) else os.find? fun o => o.1 == key' := by
  induction os with
  | nil => by_cases h : key = key' <;> simp [putOffer, h]
  | cons o rest ih =>
    by_cases ho : o.1 = key
    · by_cases h : key = key' <;> simp [putOffer, ho, h]
    · rw [putOffer, if_neg ho, List.find?_cons, List.find?_cons, ih]
      by_cases h : key = key'
      · have hne : (o.1 == key') = false := by simpa [← h] using ho
        rw [hne, if_pos h]
      · rw [if_neg h, if_neg h]

theorem offer?_add (r : Report) (range : Range) (m : Remark) (key : String) :
    (r.add range m).offer? key =
      if range.start.key = key then some m.offer else r.offer? key := by
  simp only [offer?, add, find?_putOffer]
  split <;> rfl

end Report

namespace Context

variable (c : Context)

/-- A remark of a document as an editor gets it. -/
def diagnostic (m : Remark) : Diagnostic :=
  m.diagnostic (c.range m.start m.stop)

theorem diagnostics_put (r : Report) (m : Remark) :
    (c.put r m).diagnostics = r.diagnostics ++ [c.diagnostic m] := rfl

@[simp] theorem putAll_nil (r : Report) : c.putAll r [] = r := rfl

@[simp] theorem putAll_cons (r : Report) (m : Remark) (ms : List Remark) :
    c.putAll r (m :: ms) = c.putAll (c.put r m) ms := rfl

theorem putAll_append (r : Report) (ms ns : List Remark) :
    c.putAll r (ms ++ ns) = c.putAll (c.putAll r ms) ns := List.foldl_append

theorem diagnostics_putAll (r : Report) (ms : List Remark) :
    (c.putAll r ms).diagnostics = r.diagnostics ++ ms.map c.diagnostic := by
  induction ms generalizing r with
  | nil => simp
  | cons m ms ih =>
    rw [putAll_cons, ih, diagnostics_put, List.map_cons, List.append_assoc]
    rfl

theorem hasOfferAt_put (r : Report) (m : Remark) (p : Position) :
    (c.put r m).hasOfferAt p = (decide ((c.position m.start).key = p.key) || r.hasOfferAt p) := by
  change ((r.add (c.range m.start m.stop) m).offer? p.key).isSome = _
  rw [Report.offer?_add]
  change (if (c.position m.start).key = p.key then _ else _ : Option Offer).isSome = _
  by_cases h : (c.position m.start).key = p.key <;> simp [h, Report.hasOfferAt]

/-- Offsets of the text are told apart by the keys of their positions. -/
theorem key_position_eq_iff {a b : Nat} (ha : a ≤ c.text.length) (hb : b ≤ c.text.length) :
    (c.position a).key = (c.position b).key ↔ a = b :=
  ⟨offset_eq_of_key c.encoding c.text ha hb, fun h => by rw [h]⟩

/-- Within a literal the report has offers at exactly the offsets of a list. -/
def TakenWithin (l : Literal) (r : Report) (taken : List Nat) : Prop :=
  ∀ a, l.start ≤ a → a ≤ l.stop → r.hasOfferAt (c.position a) = taken.contains a

variable {c}

/-- A remark within the literal takes its offset. -/
theorem TakenWithin.put {l : Literal} {r : Report} {taken : List Nat} {m : Remark}
    (h : c.TakenWithin l r taken) (hl : l.stop ≤ c.text.length) (hm : m.start ≤ l.stop) :
    c.TakenWithin l (c.put r m) (m.start :: taken) := by
  intro a hstart hstop
  have hkey := c.key_position_eq_iff (Nat.le_trans hm hl) (Nat.le_trans hstop hl)
  rw [hasOfferAt_put, h a hstart hstop, List.contains_cons]
  congr 1
  exact decide_eq_decide.mpr (hkey.trans eq_comm)

/-- Remarks that begin before the literal leave it as it is. -/
theorem TakenWithin.putAll_before {l : Literal} {r : Report} {taken : List Nat} {ms : List Remark}
    (h : c.TakenWithin l r taken) (hl : l.stop ≤ c.text.length)
    (hms : ∀ m ∈ ms, m.start < l.start) : c.TakenWithin l (c.putAll r ms) taken := by
  induction ms generalizing r with
  | nil => exact h
  | cons m ms ih =>
    refine ih ?_ (fun n hn => hms n (List.mem_cons_of_mem m hn))
    intro a hstart hstop
    have hm := hms m List.mem_cons_self
    have hkey := c.key_position_eq_iff (a := m.start) (b := a) (by omega) (by omega)
    have hne : m.start ≠ a := by omega
    rw [hasOfferAt_put, h a hstart hstop]
    simp [hkey, hne]

end Context

/-! The remarks on the words of a body that was not parsed. -/

/-- The remarks on words, `taken` being the offsets at which remarks begin already. -/
def fallbackRemarks (registry : Registry) (l : Literal) :
    (taken : List Nat) → List (Nat × List Char) → List Remark
  | _, [] => []
  | taken, (index, word) :: rest =>
    let start := l.start + index
    let name := String.ofList word
    if isKnownAtom registry name || taken.contains start then fallbackRemarks registry l taken rest
    else
      .unknownSample registry name start (start + word.length) ::
        fallbackRemarks registry l (start :: taken) rest

/-- The words of a list lie in the body of a literal. -/
def InBody (l : Literal) (tokens : List (Nat × List Char)) : Prop :=
  ∀ token ∈ tokens, token.1 + token.2.length ≤ l.body.length

theorem fallbackTokens_inBody (l : Literal) : InBody l (fallbackTokens l.body) :=
  fun _ htoken => fallbackTokens_bound htoken

theorem fallbackRemarks_within (registry : Registry) {l : Literal} (taken : List Nat)
    {tokens : List (Nat × List Char)} (htokens : InBody l tokens) :
    ∀ m ∈ fallbackRemarks registry l taken tokens, m.Within l := by
  induction tokens generalizing taken with
  | nil => simp [fallbackRemarks]
  | cons token rest ih =>
    obtain ⟨index, word⟩ := token
    have hword : index + word.length ≤ l.body.length := htokens (index, word) List.mem_cons_self
    have hrest : InBody l rest := fun t ht => htokens t (List.mem_cons_of_mem _ ht)
    intro m hm
    simp only [fallbackRemarks] at hm
    split at hm
    · exact ih _ hrest m hm
    · rcases List.mem_cons.mp hm with rfl | hm
      · refine ⟨Or.inr rfl, Nat.le_add_right _ _, Nat.le_add_right _ _, ?_⟩
        rw [Remark.unknownSample_stop, Literal.stop]
        omega
      · exact ih _ hrest m hm

theorem fallbackRemarks_onUnknown (registry : Registry) (l : Literal) (taken : List Nat)
    (tokens : List (Nat × List Char)) :
    ∀ m ∈ fallbackRemarks registry l taken tokens, m.OnUnknown registry := by
  induction tokens generalizing taken with
  | nil => simp [fallbackRemarks]
  | cons token rest ih =>
    obtain ⟨index, word⟩ := token
    intro m hm
    simp only [fallbackRemarks] at hm
    split at hm
    · exact ih taken m hm
    · rename_i hreported
      have hword : isKnownAtom registry (String.ofList word) = false ∧ l.start + index ∉ taken := by
        simpa using hreported
      rcases List.mem_cons.mp hm with rfl | hm
      · exact ⟨_, _, _, hword.1, rfl⟩
      · exact ih _ m hm

/-- Which of the words at one offset is remarked on depends on their order, but not whether one of
them is. -/
theorem exists_fallbackRemark_at_iff (registry : Registry) (l : Literal) (taken : List Nat)
    (tokens : List (Nat × List Char)) (a : Nat) :
    (∃ m ∈ fallbackRemarks registry l taken tokens, m.start = a) ↔
      a ∉ taken ∧
        ∃ t ∈ tokens, isKnownAtom registry (String.ofList t.2) = false ∧ l.start + t.1 = a := by
  induction tokens generalizing taken with
  | nil => simp [fallbackRemarks]
  | cons token rest ih =>
    obtain ⟨index, word⟩ := token
    simp only [fallbackRemarks]
    split
    · rename_i hpassed
      rw [ih]
      -- The word is known, or the offset at which it stands is taken.
      have hword : isKnownAtom registry (String.ofList word) = true ∨ l.start + index ∈ taken := by
        simpa using hpassed
      constructor
      · rintro ⟨ha, t, ht, hunknown, hstart⟩
        exact ⟨ha, t, List.mem_cons_of_mem _ ht, hunknown, hstart⟩
      · rintro ⟨ha, t, ht, hunknown, rfl⟩
        refine ⟨ha, ?_⟩
        rcases List.mem_cons.mp ht with rfl | ht
        · rcases hword with hknown | htaken
          · cases hknown.symm.trans hunknown
          · exact absurd htaken ha
        · exact ⟨t, ht, hunknown, rfl⟩
    · rename_i hreported
      have hword : isKnownAtom registry (String.ofList word) = false ∧ l.start + index ∉ taken := by
        simpa using hreported
      constructor
      · rintro ⟨m, hm, rfl⟩
        rcases List.mem_cons.mp hm with rfl | hm
        · exact ⟨hword.2, _, List.mem_cons_self, hword.1, rfl⟩
        · obtain ⟨ha, t, ht, hunknown, hstart⟩ := (ih _).mp ⟨m, hm, rfl⟩
          exact ⟨fun h => ha (List.mem_cons_of_mem _ h), t, List.mem_cons_of_mem _ ht, hunknown,
            hstart⟩
      · rintro ⟨ha, t, ht, hunknown, rfl⟩
        by_cases hsame : t.1 = index
        · exact ⟨_, List.mem_cons_self, by rw [hsame, Remark.unknownSample_start]⟩
        · rcases List.mem_cons.mp ht with rfl | ht
          · exact absurd rfl hsame
          · have hfree : l.start + t.1 ∉ (l.start + index) :: taken := by
              rw [List.mem_cons, not_or]
              exact ⟨by omega, ha⟩
            obtain ⟨m, hm, hstart⟩ := (ih _).mpr ⟨hfree, t, ht, hunknown, rfl⟩
            exact ⟨m, List.mem_cons_of_mem _ hm, hstart⟩

/-- A word is passed over if it is known or if a remark begins where it stands. -/
theorem checkWord_eq (c : Context) {l : Literal} {r : Report} {taken : List Nat}
    (h : c.TakenWithin l r taken) {index : Nat} {word : List Char}
    (hword : index + word.length ≤ l.body.length) :
    c.checkWord l r (index, word) =
      if isKnownAtom c.registry (String.ofList word) || taken.contains (l.start + index) then r
      else
        c.put r (.unknownSample c.registry (String.ofList word) (l.start + index)
          (l.start + index + word.length)) := by
  have hstop : l.start + index ≤ l.stop := by
    unfold Literal.stop
    omega
  rw [← h (l.start + index) (Nat.le_add_right _ _) hstop]
  simp only [Context.checkWord]
  by_cases hknown : isKnownAtom c.registry (String.ofList word) = true
  · rw [if_pos hknown, if_pos (by simp [hknown])]
  · rw [if_neg hknown, (Bool.not_eq_true _).mp hknown, Bool.false_or]

theorem foldl_checkWord (c : Context) {l : Literal} (hl : l.stop ≤ c.text.length) {r : Report}
    {taken : List Nat} (h : c.TakenWithin l r taken) {tokens : List (Nat × List Char)}
    (htokens : InBody l tokens) :
    tokens.foldl (c.checkWord l) r =
      c.putAll r (fallbackRemarks c.registry l taken tokens) := by
  induction tokens generalizing r taken with
  | nil => rfl
  | cons token rest ih =>
    obtain ⟨index, word⟩ := token
    have hword : index + word.length ≤ l.body.length := htokens (index, word) List.mem_cons_self
    have hrest : InBody l rest := fun t ht => htokens t (List.mem_cons_of_mem _ ht)
    rw [List.foldl_cons, checkWord_eq c h hword, fallbackRemarks]
    split
    · exact ih h hrest
    · refine ih (h.put hl ?_) hrest
      rw [Remark.unknownSample_start, Literal.stop]
      omega

/-! The remarks on a literal. -/

/-- The remarks on a literal whose parse had an outcome. -/
def outcomeRemarks (registry : Registry) (l : Literal) : Outcome → List Remark
  | .success leaves => leaves.filterMap (leafRemark? registry l)
  | .failure f =>
    match f.span with
    | some span => [.parseError (remapSpan l span).1 (remapSpan l span).2 f]
    | none =>
      if f.parserRan then
        .parseError l.start (min (l.start + 1) l.stop) f ::
          fallbackRemarks registry l [l.start] (fallbackTokens l.body)
      else fallbackRemarks registry l [] (fallbackTokens l.body)

/-- Checking a literal puts its remarks into a report that has no offer within it. -/
theorem checkOutcome_eq (c : Context) {l : Literal} (hl : l.stop ≤ c.text.length) (o : Outcome)
    {r : Report} (h : c.TakenWithin l r []) :
    c.checkOutcome l o r = c.putAll r (outcomeRemarks c.registry l o) := by
  cases o with
  | success leaves => rfl
  | failure f =>
    cases hspan : f.span with
    | some span => simp [Context.checkOutcome, outcomeRemarks, hspan]
    | none =>
      simp only [Context.checkOutcome, outcomeRemarks, hspan, Context.checkFallback]
      split
      · have hput := h.put (m := .parseError l.start (min (l.start + 1) l.stop) f) hl
          l.start_le_stop
        exact foldl_checkWord c hl hput (fallbackTokens_inBody l)
      · exact foldl_checkWord c hl h (fallbackTokens_inBody l)

/-- Wherever a parser puts a span, it is brought back between the quotes. -/
theorem remapSpan_bounds (l : Literal) (span : Span) :
    l.start ≤ (remapSpan l span).1 ∧ (remapSpan l span).1 ≤ (remapSpan l span).2 ∧
      (remapSpan l span).2 ≤ l.stop := by
  have hle := l.start_le_stop
  simp only [remapSpan, remapOffset]
  omega

theorem leafRemark?_eq_some_iff {registry : Registry} {l : Literal} {leaf : Leaf} {m : Remark} :
    leafRemark? registry l leaf = some m ↔
      leaf.kind = "atom" ∧ isKnownAtom registry leaf.text = false ∧
        m = .unknownSample registry leaf.text (remapSpan l leaf.span).1
          (remapSpan l leaf.span).2 := by
  unfold leafRemark?
  by_cases hkind : leaf.kind = "atom"
  · cases hknown : isKnownAtom registry leaf.text <;> simp [hkind, eq_comm]
  · simp [hkind]

theorem leafRemarks_onUnknown (registry : Registry) (l : Literal) (leaves : List Leaf) :
    ∀ m ∈ leaves.filterMap (leafRemark? registry l), m.OnUnknown registry := by
  intro m hm
  obtain ⟨leaf, _, hleaf⟩ := List.mem_filterMap.mp hm
  obtain ⟨_, hunknown, rfl⟩ := leafRemark?_eq_some_iff.mp hleaf
  exact ⟨_, _, _, hunknown, rfl⟩

theorem leafRemark?_within {registry : Registry} {l : Literal} {leaf : Leaf} {m : Remark}
    (h : leafRemark? registry l leaf = some m) : m.Within l := by
  unfold leafRemark? at h
  split at h
  · simp at h
  · cases h
    obtain ⟨hstart, hordered, hstop⟩ := remapSpan_bounds l leaf.span
    exact ⟨Or.inr rfl, hstart, hordered, hstop⟩

theorem outcomeRemarks_within (registry : Registry) (l : Literal) (o : Outcome) :
    ∀ m ∈ outcomeRemarks registry l o, m.Within l := by
  intro m hm
  cases o with
  | success leaves =>
    obtain ⟨leaf, _, hleaf⟩ := List.mem_filterMap.mp hm
    exact leafRemark?_within hleaf
  | failure f =>
    cases hspan : f.span with
    | some span =>
      simp only [outcomeRemarks, hspan, List.mem_singleton] at hm
      subst hm
      obtain ⟨hstart, hordered, hstop⟩ := remapSpan_bounds l span
      exact ⟨Or.inl rfl, hstart, hordered, hstop⟩
    | none =>
      simp only [outcomeRemarks, hspan] at hm
      split at hm
      · rcases List.mem_cons.mp hm with rfl | hm
        · have hle := l.start_le_stop
          exact ⟨Or.inl rfl, Nat.le_refl _, Nat.le_min.mpr ⟨Nat.le_succ _, hle⟩,
            Nat.min_le_right _ _⟩
        · exact fallbackRemarks_within registry _ (fallbackTokens_inBody l) m hm
      · exact fallbackRemarks_within registry _ (fallbackTokens_inBody l) m hm

/-! The remarks on calls. -/

/-- A remark on a call lies on the name of the call. -/
theorem mem_callRemarks {registry : Registry} {text : List Char} {m : Remark}
    (h : m ∈ callRemarks registry text) :
    m.code = .unknownFunction ∧
      ∃ site ∈ callSites text, m.start = site.start ∧ m.stop = site.start + site.name.length := by
  obtain ⟨site, hsite, hm⟩ := List.mem_filterMap.mp h
  simp only [Remark.unknownFunction?] at hm
  split at hm
  · simp at hm
  · split at hm
    · simp at hm
    · cases hm
      exact ⟨rfl, site, hsite, rfl, rfl⟩

end PatternServer.Diagnostics
