import Mathlib.Data.List.Basic
import PatternServer.Proofs.FallbackPlaces

/-!
# The words that are found without a parser

The runs of a text can be listed from front to back, each with its offset. Cutting the text at its
separators gives the same runs in the same order, with empty pieces among them. So the words found
in a body without a parser are its runs, one for one and in their order, but for the numbers, and
each comes with the offset at which it first occurs.
-/

namespace PatternServer.Text

set_option autoImplicit false

/-- The runs of a text from an offset on, each with its own offset, from front to back. -/
structure RunsFrom (separates : Char → Bool) (s : List Char) (k : Nat)
    (runs : List (Nat × List Char)) : Prop where
  ordered : runs.Pairwise fun a b => a.1 < b.1
  mem_iff : ∀ i run, (i, run) ∈ runs ↔ k ≤ i ∧ RunAt separates s i run

section
variable {separates : Char → Bool} {s : List Char} {runs : List (Nat × List Char)}

/-- Behind one character more, the runs stand one offset further on. A run at the very front counts
only if that character is a separator. -/
theorem RunsFrom.cons {k : Nat} (h : RunsFrom separates s k runs) {c : Char}
    (hk : ∀ i, k ≤ i ↔ (i = 0 → separates c = true)) :
    RunsFrom separates (c :: s) 1 (runs.map fun r => (r.1 + 1, r.2)) where
  ordered := List.pairwise_map.mpr (h.ordered.imp Nat.succ_lt_succ)
  mem_iff i run := by
    cases i with
    | zero => simp
    | succ i =>
      have hshift : (i + 1, run) ∈ runs.map (fun r => (r.1 + 1, r.2)) ↔ (i, run) ∈ runs := by
        simp
      rw [hshift, h.mem_iff, runAt_cons_iff, hk]
      simp [and_comm]

theorem RunsFrom.zero_of_nil (h : RunsFrom separates s 1 runs)
    (hfirst : (s.takeWhile fun c => !separates c) = []) : RunsFrom separates s 0 runs where
  ordered := h.ordered
  mem_iff i run := by
    rw [h.mem_iff]
    cases i with
    | zero => simp [runAt_zero_iff, hfirst]
    | succ i => simp

theorem RunsFrom.zero_of_ne_nil (h : RunsFrom separates s 1 runs)
    (hfirst : (s.takeWhile fun c => !separates c) ≠ []) :
    RunsFrom separates s 0 ((0, s.takeWhile fun c => !separates c) :: runs) where
  ordered := List.pairwise_cons.mpr
    ⟨fun r hr => ((h.mem_iff r.1 r.2).mp hr).1, h.ordered⟩
  mem_iff i run := by
    rw [List.mem_cons, h.mem_iff]
    cases i with
    | zero =>
      rw [runAt_zero_iff]
      constructor
      · rintro (heq | ⟨hlt, _⟩)
        · cases heq
          exact ⟨Nat.le_refl 0, hfirst, rfl⟩
        · cases hlt
      · rintro ⟨_, _, rfl⟩
        exact Or.inl rfl
    | succ i => simp

/-- With the piece at the front, the pieces behind the first separator are all of them. -/
theorem RunsFrom.exists_zero (h : RunsFrom separates s 1 runs)
    (hpieces : runs.map Prod.snd = (s.splitOnP separates).tail.filter fun w => !w.isEmpty) :
    ∃ all, RunsFrom separates s 0 all ∧
      all.map Prod.snd = (s.splitOnP separates).filter fun w => !w.isEmpty := by
  rw [splitOnP_eq_cons]
  by_cases hfirst : (s.takeWhile fun c => !separates c) = []
  · exact ⟨runs, h.zero_of_nil hfirst, by rw [hpieces, hfirst]; rfl⟩
  · refine ⟨_, h.zero_of_ne_nil hfirst, ?_⟩
    rw [List.filter_cons_of_pos (by simpa using hfirst), List.map_cons, hpieces]

theorem exists_runsFrom_one (separates : Char → Bool) (s : List Char) :
    ∃ runs, RunsFrom separates s 1 runs ∧
      runs.map Prod.snd = (s.splitOnP separates).tail.filter fun w => !w.isEmpty := by
  induction s with
  | nil =>
    refine ⟨[], ⟨List.Pairwise.nil, fun i run => ?_⟩, by simp⟩
    constructor
    · intro h
      cases h
    · rintro ⟨_, h⟩
      exact absurd (by simpa using h.occurs) h.ne_nil
  | cons c s ih =>
    obtain ⟨later, hlater, hpieces⟩ := ih
    rw [List.splitOnP_cons_eq_if_modifyHead]
    cases hc : separates c with
    | true =>
      obtain ⟨all, hall, hpieces⟩ := hlater.exists_zero hpieces
      exact ⟨_, hall.cons (c := c) (by simp [hc]), by simp [Function.comp_def, ← hpieces]⟩
    | false =>
      have hbehind : ∀ i, 1 ≤ i ↔ (i = 0 → separates c = true) := by
        intro i
        rw [hc]
        cases i <;> simp
      exact ⟨_, hlater.cons hbehind, by simp [Function.comp_def, ← hpieces]⟩

/-- The pieces of a text that are not empty are its runs, in their order. -/
theorem exists_runsFrom_zero (separates : Char → Bool) (s : List Char) :
    ∃ runs, RunsFrom separates s 0 runs ∧
      runs.map Prod.snd = (s.splitOnP separates).filter fun w => !w.isEmpty := by
  obtain ⟨later, hlater, hpieces⟩ := exists_runsFrom_one separates s
  exact hlater.exists_zero hpieces

end

end PatternServer.Text

namespace PatternServer.Diagnostics

set_option autoImplicit false

open PatternServer.Text

variable {body word : List Char} {i : Nat}

theorem FirstAt.add_length_le (h : FirstAt word body i) (hne : word ≠ []) :
    i + word.length ≤ body.length := by
  have hle := h.occurs.length_le
  have hlt := List.length_pos_iff.mpr hne
  rw [List.length_drop] at hle
  omega

/-- A piece of a body occurs in the body, so that the search for it succeeds. -/
theorem exists_firstOccurrence? (hmem : word ∈ body.splitOnP isWordSeparator) (hne : word ≠ []) :
    ∃ i, firstOccurrence? word body = some i := by
  obtain ⟨j, hrun⟩ := (mem_splitOnP_iff hne).mp hmem
  obtain ⟨i, hfirst⟩ := exists_firstAt hrun.occurs
  exact ⟨i, (firstOccurrence?_eq_some_iff hne).mpr hfirst⟩

theorem not_isNumeric (hne : word ≠ []) :
    (!isNumeric word) = word.any fun c => !isNumberChar c := by
  rw [isNumeric, List.isEmpty_eq_false_iff.mpr hne, Bool.not_false, Bool.true_and,
    List.not_all_eq_any_not]

theorem map_snd_fallbackTokens (body : List Char) :
    (fallbackTokens body).map Prod.snd =
      (body.splitOnP isWordSeparator).filter fun w => !w.isEmpty && !isNumeric w := by
  rw [fallbackTokens, List.map_filterMap, ← List.filterMap_eq_filter]
  refine List.filterMap_congr fun w hw => ?_
  by_cases hkept : (w.isEmpty || isNumeric w) = true
  · rw [if_pos hkept, Option.map_none, Option.guard, ← Bool.not_or, hkept]
    rfl
  · have hne : w ≠ [] := by
      rintro rfl
      exact hkept rfl
    obtain ⟨i, hi⟩ := exists_firstOccurrence? hw hne
    rw [if_neg hkept, hi, Option.guard, ← Bool.not_or, Bool.eq_false_of_not_eq_true hkept]
    rfl

/-- Without a parser no word of a body is lost and none is made up. The words that are found are the
runs of the body from front to back, repeated ones as often as they stand there, less those of
digits, points and minus signs only. Each comes with the least offset at which it occurs in the
body, be it inside of another word, and ends within the body from there. -/
theorem fallbackTokens_lossless (body : List Char) :
    (∃ runs : List (Nat × List Char),
      runs.Pairwise (fun a b => a.1 < b.1) ∧
      (∀ i word, (i, word) ∈ runs ↔ WordAt body i word) ∧
      (fallbackTokens body).map Prod.snd =
        (runs.map Prod.snd).filter fun word => word.any fun c => !isNumberChar c) ∧
    ∀ i word, (i, word) ∈ fallbackTokens body →
      FirstAt word body i ∧ i + word.length ≤ body.length := by
  constructor
  · obtain ⟨runs, hruns, hpieces⟩ := exists_runsFrom_zero isWordSeparator body
    refine ⟨runs, hruns.ordered, by simpa using hruns.mem_iff, ?_⟩
    rw [map_snd_fallbackTokens, hpieces, List.filter_filter]
    refine List.filter_congr fun w _ => ?_
    by_cases hne : w = []
    · rw [hne]
      rfl
    · rw [not_isNumeric hne, Bool.and_comm]
  · intro i word hmem
    obtain ⟨⟨_, hword⟩, _, hfirst⟩ := mem_fallbackTokens_iff.mp hmem
    exact ⟨hfirst, hfirst.add_length_le hword.ne_nil⟩

/-- Separators at either end, a number, and a word that stands twice and first occurs in another. -/
theorem fallbackTokens_lossless_repeated :
    let body := "~casio casi -1.5 casi]".toList
    let casi := "casi".toList
    fallbackTokens body = [(1, "casio".toList), (1, casi), (1, casi)] ∧
      (∃ runs : List (Nat × List Char),
        (7, casi) ∈ runs ∧ (12, "-1.5".toList) ∈ runs ∧ (17, casi) ∈ runs ∧
        (fallbackTokens body).map Prod.snd =
          (runs.map Prod.snd).filter fun word => word.any fun c => !isNumberChar c) ∧
      FirstAt casi body 1 ∧ 1 + casi.length ≤ body.length := by
  intro body casi
  have htokens : fallbackTokens body = [(1, "casio".toList), (1, casi), (1, casi)] := by
    decide +kernel
  obtain ⟨⟨runs, _, hmem, hwords⟩, hplaces⟩ := fallbackTokens_lossless body
  refine ⟨htokens, ⟨runs, ?_, ?_, ?_, hwords⟩, hplaces 1 casi (by rw [htokens]; simp)⟩
  · exact (hmem 7 casi).mpr (by decide +kernel)
  · exact (hmem 12 "-1.5".toList).mpr (by decide +kernel)
  · exact (hmem 17 casi).mpr (by decide +kernel)

end PatternServer.Diagnostics
