import PatternServer.Notation.Brackets
import PatternServer.Proofs.Validation

/-!
# The words that are offered

Where a word is remarked on as unknown, the report holds an offer for an unknown word, and the words
offered in its place are known. The exception is a word that the table of corrections names: its
correction is offered whatever the registry knows. The table makes no difference between samples,
notes and functions, so the correction may be as unknown as the word.

Offers are found by positions only. An unknown call can begin inside a literal, at the very offset
of an unknown sample, and its offer is then the one that counts.
-/

namespace PatternServer.Vocabulary

set_option autoImplicit false

open PatternServer.Text

/-- What the table of corrections puts in place of a word, whatever its letter case. -/
def correction? (word : String) : Option String :=
  (Catalog.corrections.find? fun c => c.1 == lowerName word).map (·.2)

theorem suggest_of_correction {word w : String} (h : correction? word = some w)
    (vocabulary : List String) : suggest word vocabulary = [w] := by
  obtain ⟨c, hc, rfl⟩ := Option.map_eq_some_iff.mp h
  simp only [suggest, suggestWith, hc]

theorem mem_of_mem_nearest {lowered : List Char} {vocabulary : List String} {limit : Int}
    {s : Nat × String} (h : s ∈ nearest lowered vocabulary limit) : s.2 ∈ vocabulary := by
  simp only [nearest, List.mem_mergeSort] at h
  obtain ⟨name, hname, rfl⟩ := List.mem_map.mp (List.mem_filter.mp h).1
  exact hname

theorem mem_of_mem_suggest {word : String} (h : correction? word = none)
    {vocabulary : List String} {w : String} (hw : w ∈ suggest word vocabulary) :
    w ∈ vocabulary := by
  simp only [suggest, suggestWith, Option.map_eq_none_iff.mp h] at hw
  obtain ⟨s, hs, rfl⟩ := List.mem_map.mp hw
  exact mem_of_mem_nearest (List.mem_of_mem_take hs)

theorem Registry.isSample_of_mem {r : Registry} {name : String} (h : name ∈ r.samples) :
    r.isSample name = true :=
  knows_eq_true_iff.mpr ⟨name, h, rfl⟩

theorem Registry.isFunction_of_mem {r : Registry} {name : String} (h : name ∈ r.functionNames) :
    r.isFunction name = true := by
  obtain ⟨f, hf, rfl⟩ := List.mem_map.mp h
  exact List.any_eq_true.mpr ⟨f, hf, beq_self_eq_true _⟩

end PatternServer.Vocabulary

namespace PatternServer.Diagnostics

set_option autoImplicit false

open PatternServer.Document PatternServer.Notation PatternServer.Vocabulary

theorem isKnownAtom_of_isSample {registry : Registry} {word : String}
    (h : registry.isSample word = true) : isKnownAtom registry word = true := by
  simp [isKnownAtom, h]

/-- Whether a registry takes a word for one of the kind that an offer is about. -/
def accepts (registry : Registry) : OfferKind → String → Bool
  | .unbalancedBracket, _ => false
  | .unknownSample, word => isKnownAtom registry word
  | .unknownFunction, word => registry.isFunction word

/-- An offer for a word that is not known. What it puts in place of the word is known, unless the
word has a correction; then it is the correction. -/
structure Offer.Mends (registry : Registry) (offer : Offer) (word : String) : Prop where
  about : offer.word = some word
  unknown : accepts registry offer.kind word = false
  corrected : ∀ w, correction? word = some w → offer.suggestions = [w]
  known : correction? word = none → ∀ w ∈ offer.suggestions, accepts registry offer.kind w = true

theorem Offer.mends_sample {registry : Registry} {word : String}
    (h : isKnownAtom registry word = false) :
    Mends registry ⟨.unknownSample, some word, suggest word registry.samples⟩ word := by
  refine ⟨rfl, h, fun w hw => suggest_of_correction hw _, ?_⟩
  intro hnone w hw
  apply isKnownAtom_of_isSample
  exact Registry.isSample_of_mem (mem_of_mem_suggest hnone hw)

theorem Offer.mends_function {registry : Registry} {name : String}
    (h : registry.isFunction name = false) :
    Mends registry ⟨.unknownFunction, some name, suggest name registry.functionNames⟩ name := by
  refine ⟨rfl, h, fun w hw => suggest_of_correction hw _, ?_⟩
  intro hnone w hw
  exact Registry.isFunction_of_mem (mem_of_mem_suggest hnone hw)

/-! Remarks and their offers. -/

theorem Remark.OnUnknown.mends {registry : Registry} {m : Remark} (h : m.OnUnknown registry) :
    m.offer.kind = .unknownSample ∧ ∃ word, m.offer.Mends registry word := by
  obtain ⟨word, a, b, hunknown, rfl⟩ := h
  exact ⟨rfl, word, Offer.mends_sample hunknown⟩

/-- The remarks on a literal are parse errors and then unknown samples, none of which begins where a
parse error does. -/
theorem outcomeRemarks_split (registry : Registry) (l : Literal) (o : Outcome) :
    ∃ errors words, outcomeRemarks registry l o = errors ++ words ∧
      (∀ m ∈ errors, m.code = .parseError) ∧ (∀ n ∈ words, n.OnUnknown registry) ∧
      ∀ m ∈ errors, ∀ n ∈ words, n.start ≠ m.start := by
  cases o with
  | success leaves =>
    exact ⟨[], _, rfl, by simp, leafRemarks_onUnknown registry l leaves, by simp⟩
  | failure f =>
    cases hspan : f.span with
    | some span =>
      simp only [outcomeRemarks, hspan]
      exact ⟨[_], [], rfl, by simp [Remark.parseError], by simp, by simp⟩
    | none =>
      simp only [outcomeRemarks, hspan]
      split
      · refine ⟨[_], _, rfl, by simp [Remark.parseError],
          fallbackRemarks_onUnknown registry l _ _, ?_⟩
        -- The words are not remarked on where the parse error begins.
        intro m hm n hn hstart
        obtain rfl := List.mem_singleton.mp hm
        have hfree := ((exists_fallbackRemark_at_iff registry l [l.start] _ n.start).mp
          ⟨n, hn, rfl⟩).1
        exact hfree (List.mem_singleton.mpr hstart)
      · exact ⟨[], _, rfl, by simp, fallbackRemarks_onUnknown registry l _ _, by simp⟩

theorem outcomeRemarks_onUnknown_of_start_eq {registry : Registry} {l : Literal} {o : Outcome}
    {m n : Remark} (hm : m ∈ outcomeRemarks registry l o) (hn : n ∈ outcomeRemarks registry l o)
    (hcode : m.code = .unknownSample) (hstart : n.start = m.start) : n.OnUnknown registry := by
  obtain ⟨errors, words, heq, herrors, hwords, hapart⟩ := outcomeRemarks_split registry l o
  rw [heq] at hm hn
  rcases List.mem_append.mp hn with hn | hn
  · rcases List.mem_append.mp hm with hm | hm
    · cases (herrors m hm).symm.trans hcode
    · exact absurd hstart.symm (hapart n hn m hm)
  · exact hwords n hn

theorem callRemarks_mends {registry : Registry} {text : List Char} {m : Remark}
    (h : m ∈ callRemarks registry text) :
    m.offer.kind = .unknownFunction ∧ ∃ site ∈ callSites text, m.start = site.start ∧
      m.offer.Mends registry (String.ofList site.name) := by
  obtain ⟨site, hsite, hm⟩ := List.mem_filterMap.mp h
  simp only [Remark.unknownFunction?] at hm
  split at hm
  · cases hm
  · rename_i hunknown
    split at hm
    · cases hm
    · cases hm
      simp only [Bool.or_eq_true, not_or, Bool.not_eq_true] at hunknown
      exact ⟨rfl, site, hsite, rfl, Offer.mends_function hunknown.1⟩

/-! The offer at a position. -/

namespace Context

variable (c : Context)

theorem offer?_put (r : Report) (m : Remark) (key : String) :
    (c.put r m).offer? key =
      if (c.position m.start).key = key then some m.offer else r.offer? key :=
  r.offer?_add (c.range m.start m.stop) m key

theorem offer?_putAll_of_ne {key : String} {ms : List Remark}
    (h : ∀ m ∈ ms, (c.position m.start).key ≠ key) (r : Report) :
    (c.putAll r ms).offer? key = r.offer? key := by
  induction ms generalizing r with
  | nil => rfl
  | cons m ms ih =>
    rw [putAll_cons, ih fun n hn => h n (List.mem_cons_of_mem m hn), offer?_put,
      if_neg (h m List.mem_cons_self)]

/-- The offer where a remark begins is that of the last remark that begins there. -/
theorem exists_offer?_putAll {m : Remark} {ms : List Remark} (hm : m ∈ ms) (r : Report) :
    ∃ n ∈ ms, (c.position n.start).key = (c.position m.start).key ∧
      (c.putAll r ms).offer? (c.position m.start).key = some n.offer := by
  induction ms generalizing r m with
  | nil => cases hm
  | cons x ms ih =>
    rw [putAll_cons]
    by_cases hlater : ∃ y ∈ ms, (c.position y.start).key = (c.position m.start).key
    · obtain ⟨y, hy, hkey⟩ := hlater
      obtain ⟨n, hn, hkey', hoffer⟩ := ih hy (c.put r x)
      rw [hkey] at hkey' hoffer
      exact ⟨n, List.mem_cons_of_mem x hn, hkey', hoffer⟩
    · rcases List.mem_cons.mp hm with rfl | hm
      · refine ⟨m, List.mem_cons_self, rfl, ?_⟩
        rw [offer?_putAll_of_ne c (fun n hn hkey => hlater ⟨n, hn, hkey⟩), offer?_put, if_pos rfl]
      · exact absurd ⟨m, hm, rfl⟩ hlater

end Context

/-! The remarks of a whole validation. -/

/-- What comes of the literals is listed in their order. -/
theorem map_fst_of_run_mapM {σ ε α β : Type} {f : α → StateT σ (Except ε) β} {xs : List α}
    {s s' : σ} {ys : List (α × β)}
    (h : (xs.mapM fun x => (fun y => (x, y)) <$> f x).run s = .ok (ys, s')) :
    ys.map Prod.fst = xs := by
  induction xs generalizing s ys with
  | nil =>
    cases h
    rfl
  | cons x xs ih =>
    rw [List.mapM_cons, StateT.run_bind] at h
    obtain ⟨⟨p, t⟩, hp, h⟩ := bind_eq_ok h
    rw [StateT.run_bind] at h
    obtain ⟨⟨rest, t'⟩, hrest, h⟩ := bind_eq_ok h
    rw [StateT.run_map] at hp
    obtain ⟨⟨y, u⟩, _, hp⟩ := bind_eq_ok hp
    cases hp
    cases h
    rw [List.map_cons, ih hrest]

/-- Literals and their outcomes, in the order of the document. -/
def Checked (c : Context) (checked : List (Literal × Outcome)) : Prop :=
  checked.map Prod.fst = c.checkedLiterals

/-- The remarks on literals with their outcomes. -/
def checkedRemarks (registry : Registry) (checked : List (Literal × Outcome)) : List Remark :=
  checked.flatMap fun p => outcomeRemarks registry p.1 p.2

theorem exists_checked_of_run {σ ε : Type} {parse : List Char → StateT σ (Except ε) Outcome}
    {c : Context} {s s' : σ} {r : Report} (h : (validate parse c).run s = .ok (r, s')) :
    ∃ checked, Checked c checked ∧
      r = c.putAll .empty (checkedRemarks c.registry checked ++ callRemarks c.registry c.text) := by
  rw [validate_eq_checked, StateT.run_map] at h
  obtain ⟨⟨checked, t⟩, hchecked, h⟩ := bind_eq_ok h
  cases h
  exact ⟨checked, map_fst_of_run_mapM hchecked, rfl⟩

namespace Checked

variable {c : Context} {checked : List (Literal × Outcome)}

theorem stop_le (h : Checked c checked) {p : Literal × Outcome} (hp : p ∈ checked) :
    p.1.stop ≤ c.text.length := by
  apply c.checkedLiteral_stop
  rw [← h]
  exact List.mem_map_of_mem hp

theorem start_le (h : Checked c checked) {m : Remark} (hm : m ∈ checkedRemarks c.registry checked) :
    m.start ≤ c.text.length := by
  obtain ⟨p, hp, hm⟩ := List.mem_flatMap.mp hm
  have hw := outcomeRemarks_within c.registry p.1 p.2 m hm
  exact Nat.le_trans (Nat.le_trans hw.ordered hw.stop) (h.stop_le hp)

/-- Remarks that begin at one offset are about one literal. -/
theorem eq_of_start_eq (h : Checked c checked) {p q : Literal × Outcome} (hp : p ∈ checked)
    (hq : q ∈ checked) {m n : Remark} (hm : m ∈ outcomeRemarks c.registry p.1 p.2)
    (hn : n ∈ outcomeRemarks c.registry q.1 q.2) (hstart : n.start = m.start) : p = q := by
  have hordered : checked.Pairwise fun p q => p.1.stop < q.1.start := by
    have hliterals := c.checkedLiterals_ordered
    rw [← h] at hliterals
    exact List.pairwise_map.mp hliterals
  have hwm := outcomeRemarks_within c.registry p.1 p.2 m hm
  have hwn := outcomeRemarks_within c.registry q.1 q.2 n hn
  by_contra hne
  have hpq := apart_of_ordered hordered hp hq hne
  have hm₁ := hwm.start
  have hm₂ := Nat.le_trans hwm.ordered hwm.stop
  have hn₁ := hwn.start
  have hn₂ := Nat.le_trans hwn.ordered hwn.stop
  omega

theorem onUnknown_of_start_eq (h : Checked c checked) {m n : Remark}
    (hm : m ∈ checkedRemarks c.registry checked) (hn : n ∈ checkedRemarks c.registry checked)
    (hcode : m.code = .unknownSample) (hstart : n.start = m.start) :
    n.OnUnknown c.registry := by
  obtain ⟨p, hp, hm⟩ := List.mem_flatMap.mp hm
  obtain ⟨q, hq, hn⟩ := List.mem_flatMap.mp hn
  obtain rfl := h.eq_of_start_eq hp hq hm hn hstart
  exact outcomeRemarks_onUnknown_of_start_eq hm hn hcode hstart

end Checked

/-- Where a validation remarks on an unknown sample or function, its report has an offer for an
unknown word. It is about a sample, or about a function whose call begins there, as it always is
where the remark is on a function. Every word offered is known, unless the unknown word has a
correction, which is then the one word offered. -/
theorem validate_offers_mend {σ ε : Type} (parse : List Char → StateT σ (Except ε) Outcome)
    (c : Context) (s s' : σ) (r : Report) (h : (validate parse c).run s = .ok (r, s')) :
    ∀ d ∈ r.diagnostics, d.code ≠ some .parseError →
      ∃ offer word, r.offer? d.range.start.key = some offer ∧ offer.Mends c.registry word ∧
        (offer.kind = .unknownSample ∧ d.code = some .unknownSample ∨
          offer.kind = .unknownFunction ∧ ∃ site ∈ callSites c.text,
            String.ofList site.name = word ∧
              d.range.start = positionAt c.encoding c.text site.start) := by
  obtain ⟨checked, hchecked, rfl⟩ := exists_checked_of_run h
  intro d hd hcode
  rw [c.diagnostics_putAll] at hd
  obtain ⟨m, hm, rfl⟩ := List.mem_map.mp hd
  -- An offer that comes from a call that begins where the remark does.
  have hcall : ∀ n ∈ callRemarks c.registry c.text, m.start ≤ c.text.length →
      (c.position n.start).key = (c.position m.start).key →
      n.offer.kind = .unknownFunction ∧ ∃ site ∈ callSites c.text,
        n.offer.Mends c.registry (String.ofList site.name) ∧
          c.position m.start = positionAt c.encoding c.text site.start := by
    intro n hn hle hkey
    obtain ⟨hkind, site, hsite, hstart, hmends⟩ := callRemarks_mends hn
    have hbound := callSite_bound hsite
    have heq := (c.key_position_eq_iff (by omega) hle).mp hkey
    refine ⟨hkind, site, hsite, hmends, ?_⟩
    rw [← heq, hstart]
    rfl
  rcases List.mem_append.mp hm with hm | hm
  · obtain ⟨n, hn, hkey, hoffer⟩ := c.exists_offer?_putAll
      (List.mem_append_left (callRemarks c.registry c.text) hm) .empty
    have hle := hchecked.start_le hm
    have hsample : m.code = .unknownSample := by
      obtain ⟨p, _, hp⟩ := List.mem_flatMap.mp hm
      exact (outcomeRemarks_within c.registry p.1 p.2 m hp).code.resolve_left
        fun hparse => hcode (congrArg some hparse)
    rcases List.mem_append.mp hn with hn | hn
    · have hstart := (c.key_position_eq_iff (hchecked.start_le hn) hle).mp hkey
      obtain ⟨hkind, word, hmends⟩ := (hchecked.onUnknown_of_start_eq hm hn hsample hstart).mends
      exact ⟨n.offer, word, hoffer, hmends, Or.inl ⟨hkind, congrArg some hsample⟩⟩
    · obtain ⟨hkind, site, hsite, hmends, hposition⟩ := hcall n hn hle hkey
      exact ⟨n.offer, _, hoffer, hmends, Or.inr ⟨hkind, site, hsite, rfl, hposition⟩⟩
  · -- Calls come last, so no other remark replaces what they offer.
    obtain ⟨n, hn, hkey, hoffer⟩ := c.exists_offer?_putAll hm
      (c.putAll .empty (checkedRemarks c.registry checked))
    obtain ⟨_, site, hsite, hstart, _⟩ := mem_callRemarks hm
    have hbound := callSite_bound hsite
    obtain ⟨hkind, site, hsite, hmends, hposition⟩ := hcall n hn (by omega) hkey
    rw [← c.putAll_append] at hoffer
    exact ⟨n.offer, _, hoffer, hmends, Or.inr ⟨hkind, site, hsite, rfl, hposition⟩⟩

/-- A parser that finds one word behind the first character of any literal. -/
def secondWordParser (_ : List Char) : StateT Unit (Except Unit) Outcome :=
  pure (.success [⟨"atom", "bnak", ⟨2, 6⟩⟩])

/-- A call inside a literal. -/
def quotedCallContext : Context where
  text := "'.bnak('".toList
  encoding := .utf8
  registry := { (default : Registry) with functions := [⟨"bank", "", "", []⟩] }

def quotedCallWord : Diagnostic where
  range := ⟨⟨0, 2⟩, ⟨0, 6⟩⟩
  message := "Unknown sample 'bnak' (may work if loaded dynamically)"
  severity := some .hint
  code := some .unknownSample
  source := some "strudel"

/-- The name of the call is an unknown sample besides, and the offer is the one for the call. -/
theorem validate_offers_mend_quoted_call :
    ∃ r, (validate secondWordParser quotedCallContext).run () = .ok (r, ()) ∧
      quotedCallWord ∈ r.diagnostics ∧ quotedCallWord.code ≠ some .parseError ∧
      ∃ offer, r.offer? "0:2" = some offer ∧ offer.kind = .unknownFunction ∧
        offer.suggestions = ["bank"] ∧ ∃ word, offer.Mends quotedCallContext.registry word := by
  let r : Report :=
    { diagnostics :=
        [quotedCallWord,
          { quotedCallWord with
            message := "Unknown function 'bnak'. Did you mean: bank?"
            severity := some .warning
            code := some .unknownFunction }]
      offers := [("0:2", ⟨.unknownFunction, some "bnak", ["bank"]⟩)] }
  have hrun : (validate secondWordParser quotedCallContext).run () = .ok (r, ()) := by
    decide +kernel
  have hmem : quotedCallWord ∈ r.diagnostics := List.mem_cons_self
  have hcode : quotedCallWord.code ≠ some .parseError := by decide
  obtain ⟨offer, word, hoffer, hmends, _⟩ :=
    validate_offers_mend secondWordParser quotedCallContext () () r hrun quotedCallWord hmem hcode
  have hkey : quotedCallWord.range.start.key = "0:2" := by decide +kernel
  rw [hkey] at hoffer
  obtain rfl : offer = ⟨.unknownFunction, some "bnak", ["bank"]⟩ := by
    cases hoffer
    rfl
  exact ⟨r, hrun, hmem, hcode, _, hoffer, rfl, rfl, word, hmends⟩

/-- The table corrects a sample to a function and a function to a sample, and neither is known. -/
theorem validate_offers_unknown_words :
    (validate (parseWith Brackets.parse)
        ⟨"s(\"volume\").kick(".toList, .utf16, .standard⟩).map
      (fun r => (r.diagnostics.map fun d => (d.code, d.range.start.key), r.offers)) =
      .ok ([(some .unknownSample, "0:3"), (some .unknownFunction, "0:12")],
        [("0:3", ⟨.unknownSample, some "volume", ["gain"]⟩),
          ("0:12", ⟨.unknownFunction, some "kick", ["bd"]⟩)]) ∧
      isKnownAtom .standard "gain" = false ∧ Registry.standard.isFunction "bd" = false := by
  decide +kernel

end PatternServer.Diagnostics
