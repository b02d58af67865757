import Mathlib.Data.List.DropRight
import PatternServer.Text.Split

/-!
# Runs of a text

A run is a stretch without separators that cannot be made longer on either side. The pieces into
which a text is cut at its separators are its runs and, between separators that follow each other,
empty texts. No offset lies in two runs, and a stretch without separators lies in one.
-/

namespace PatternServer.Text

set_option autoImplicit false

/-- From an offset on stands a stretch without separators, with none left over on either side. -/
structure RunAt (separates : Char → Bool) (s : List Char) (i : Nat) (run : List Char) : Prop where
  ne_nil : run ≠ []
  plain : ∀ c ∈ run, separates c = false
  occurs : run <+: s.drop i
  before : i = 0 ∨ s[i - 1]?.all separates = true
  behind : s[i + run.length]?.all separates = true

section
variable {separates : Char → Bool} {s run : List Char} {i : Nat}

theorem runAt_iff :
    RunAt separates s i run ↔
      run ≠ [] ∧ (run.all fun c => !separates c) = true ∧ run.isPrefixOf (s.drop i) = true ∧
        (i = 0 ∨ s[i - 1]?.all separates = true) ∧ s[i + run.length]?.all separates = true := by
  rw [List.isPrefixOf_iff_prefix, List.all_eq_true]
  constructor
  · rintro ⟨hne, hplain, hoccurs, hbefore, hbehind⟩
    exact ⟨hne, by simpa using hplain, hoccurs, hbefore, hbehind⟩
  · rintro ⟨hne, hplain, hoccurs, hbefore, hbehind⟩
    exact ⟨hne, by simpa using hplain, hoccurs, hbefore, hbehind⟩

instance (separates : Char → Bool) (s : List Char) (i : Nat) (run : List Char) :
    Decidable (RunAt separates s i run) :=
  decidable_of_iff _ runAt_iff.symm

theorem runAt_append {a b : List Char} (hne : run ≠ []) (hplain : ∀ c ∈ run, separates c = false)
    (ha : a.getLast?.all separates = true) (hb : b.head?.all separates = true) :
    RunAt separates (a ++ (run ++ b)) a.length run where
  ne_nil := hne
  plain := hplain
  occurs := by
    rw [List.drop_left]
    exact List.prefix_append _ _
  before := by
    by_cases hnil : a = []
    · exact Or.inl (by rw [hnil, List.length_nil])
    · have hlt : a.length - 1 < a.length := Nat.sub_lt (List.length_pos_iff.mpr hnil) Nat.one_pos
      rw [List.getElem?_append_left hlt, ← List.getLast?_eq_getElem?]
      exact Or.inr ha
  behind := by
    rw [List.getElem?_append_right (Nat.le_add_right _ _), Nat.add_sub_cancel_left,
      List.getElem?_append_right (Nat.le_refl _), Nat.sub_self, ← List.head?_eq_getElem?]
    exact hb

theorem head?_dropWhile (separates : Char → Bool) (s : List Char) :
    (s.dropWhile fun c => !separates c).head?.all separates = true := by
  have hhead := List.head?_dropWhile_not (fun c => !separates c) s
  cases hs : (s.dropWhile fun c => !separates c).head? with
  | none => rfl
  | some c =>
    rw [hs] at hhead
    simpa using hhead

theorem runAt_takeWhile (hne : (s.takeWhile fun c => !separates c) ≠ []) :
    RunAt separates s 0 (s.takeWhile fun c => !separates c) := by
  have hrun := runAt_append (a := []) (b := s.dropWhile fun c => !separates c) hne
    (fun c hc => by simpa using List.mem_takeWhile_imp hc) rfl (head?_dropWhile separates s)
  rwa [List.nil_append, List.takeWhile_append_dropWhile] at hrun

theorem runAt_cons_iff {c : Char} :
    RunAt separates (c :: s) (i + 1) run ↔
      RunAt separates s i run ∧ (i = 0 → separates c = true) := by
  constructor
  · rintro ⟨hne, hplain, hoccurs, hbefore, hbehind⟩
    rw [Nat.add_right_comm, List.getElem?_cons_succ] at hbehind
    rw [Nat.add_sub_cancel] at hbefore
    cases i with
    | zero => exact ⟨⟨hne, hplain, hoccurs, Or.inl rfl, hbehind⟩, fun _ => by simpa using hbefore⟩
    | succ i => exact ⟨⟨hne, hplain, hoccurs, by simpa using hbefore, hbehind⟩, by simp⟩
  · rintro ⟨⟨hne, hplain, hoccurs, hbefore, hbehind⟩, hc⟩
    refine ⟨hne, hplain, hoccurs, Or.inr ?_, ?_⟩
    · cases i with
      | zero => simpa using hc rfl
      | succ i => simpa using hbefore
    · rwa [Nat.add_right_comm, List.getElem?_cons_succ]

namespace RunAt

theorem separates_eq_false (h : RunAt separates s i run) {j : Nat} (hij : i ≤ j)
    (hj : j < i + run.length) : s[j]?.all separates = false := by
  obtain ⟨rest, hrest⟩ := h.occurs
  obtain ⟨k, rfl⟩ := Nat.exists_eq_add_of_le hij
  have hlt : k < run.length := Nat.lt_of_add_lt_add_left hj
  rw [← List.getElem?_drop, ← hrest, List.getElem?_append_left hlt, List.getElem?_eq_getElem hlt]
  exact h.plain _ (List.getElem_mem hlt)

theorem start_le {run' : List Char} {i' : Nat} (h : RunAt separates s i run)
    (h' : RunAt separates s i' run') (hlt : i' < i + run.length) : i' ≤ i := by
  by_contra hle
  rcases h'.before with hzero | hbefore
  · omega
  · rw [h.separates_eq_false (by omega) (by omega)] at hbefore
    cases hbefore

theorem length_le {run' : List Char} (h : RunAt separates s i run)
    (h' : RunAt separates s i run') : run.length ≤ run'.length := by
  by_contra hle
  have hbehind := h'.behind
  rw [h.separates_eq_false (Nat.le_add_right _ _) (by omega)] at hbehind
  cases hbehind

/-- Two runs that have an offset in common are the same. -/
theorem unique {run' : List Char} {i' j : Nat} (h : RunAt separates s i run)
    (h' : RunAt separates s i' run') (hij : i ≤ j) (hj : j < i + run.length) (hij' : i' ≤ j)
    (hj' : j < i' + run'.length) : i = i' ∧ run = run' := by
  have hi : i = i' := Nat.le_antisymm (h'.start_le h (by omega)) (h.start_le h' (by omega))
  subst hi
  have hlength := Nat.le_antisymm (h.length_le h') (h'.length_le h)
  exact ⟨rfl, (List.prefix_of_prefix_length_le h.occurs h'.occurs hlength.le).eq_of_length hlength⟩

end RunAt

theorem runAt_zero_iff :
    RunAt separates s 0 run ↔ run ≠ [] ∧ run = s.takeWhile fun c => !separates c := by
  constructor
  · intro h
    refine ⟨h.ne_nil, ?_⟩
    obtain ⟨c, rest, hrun⟩ := List.exists_cons_of_ne_nil h.ne_nil
    have hne : (s.takeWhile fun c => !separates c) ≠ [] := by
      obtain ⟨t, ht⟩ := h.occurs
      rw [List.drop_zero] at ht
      have hc : separates c = false := h.plain c (by simp [hrun])
      simp [← ht, hrun, hc]
    have hwhole := runAt_takeWhile hne
    have hlt := List.length_pos_iff.mpr h.ne_nil
    have hlt' := List.length_pos_iff.mpr hne
    exact (h.unique hwhole (Nat.le_refl 0) (by omega) (Nat.le_refl 0) (by omega)).2
  · rintro ⟨hne, rfl⟩
    exact runAt_takeWhile hne

/-- A stretch without separators lies in a run. -/
theorem exists_runAt {part : List Char} (hne : part ≠ [])
    (hplain : ∀ c ∈ part, separates c = false) (hoccurs : part <+: s.drop i) :
    ∃ k run, RunAt separates s k run ∧ k ≤ i ∧ i + part.length ≤ k + run.length ∧
      part <:+: run := by
  let p : Char → Bool := fun c => !separates c
  let front := (s.take i).rtakeWhile p
  let back := (s.drop i).takeWhile p
  obtain ⟨rest, hrest⟩ := hoccurs
  have hback : back = part ++ rest.takeWhile p := by
    simp only [back, ← hrest]
    exact List.takeWhile_append_of_pos (by simpa [p] using hplain)
  have hlength : ((s.take i).rdropWhile p).length + front.length = i := by
    have hlt := List.length_pos_iff.mpr hne
    have hdrop := congrArg List.length hrest
    rw [List.length_append, List.length_drop] at hdrop
    rw [← List.length_append, List.rdropWhile_append_rtakeWhile, List.length_take]
    omega
  have hs : s = (s.take i).rdropWhile p ++ ((front ++ back) ++ (s.drop i).dropWhile p) := by
    rw [List.append_assoc, List.takeWhile_append_dropWhile, ← List.append_assoc,
      List.rdropWhile_append_rtakeWhile, List.take_append_drop]
  have hrun : RunAt separates s ((s.take i).rdropWhile p).length (front ++ back) := by
    have hlast : ((s.take i).rdropWhile p).getLast?.all separates = true := by
      rw [List.rdropWhile, List.getLast?_reverse]
      exact head?_dropWhile separates _
    have hrunNe : front ++ back ≠ [] := by simp [hback, hne]
    have hrunPlain : ∀ c ∈ front ++ back, separates c = false := by
      intro c hc
      rcases List.mem_append.mp hc with hc | hc
      · simpa [p] using List.mem_rtakeWhile_imp hc
      · simpa [p] using List.mem_takeWhile_imp hc
    have happend := runAt_append hrunNe hrunPlain hlast (head?_dropWhile separates (s.drop i))
    rwa [← hs] at happend
  refine ⟨_, _, hrun, by omega, ?_, ?_⟩
  · rw [List.length_append, hback, List.length_append]
    omega
  · exact ⟨front, rest.takeWhile p, by rw [hback, List.append_assoc]⟩

/-! The pieces between separators. -/

theorem splitOnP_eq_cons (separates : Char → Bool) (s : List Char) :
    s.splitOnP separates =
      (s.takeWhile fun c => !separates c) :: (s.splitOnP separates).tail := by
  induction s with
  | nil => rfl
  | cons c s ih =>
    rw [List.splitOnP_cons_eq_if_modifyHead]
    cases hc : separates c with
    | true => simp [hc]
    | false =>
      rw [ih]
      simp [hc]

theorem mem_tail_splitOnP_iff (hne : run ≠ []) :
    run ∈ (s.splitOnP separates).tail ↔ ∃ i, RunAt separates s (i + 1) run := by
  induction s with
  | nil =>
    constructor
    · intro h
      simp at h
    · rintro ⟨i, h⟩
      exact absurd (by simpa using h.occurs) hne
  | cons c s ih =>
    -- Behind the first character of the text stand the runs of the rest, but for one at its very
    -- front that this character goes on.
    have hrest : (∃ i, RunAt separates (c :: s) (i + 1) run) ↔
        (RunAt separates s 0 run ∧ separates c = true) ∨ ∃ i, RunAt separates s (i + 1) run := by
      constructor
      · rintro ⟨i, h⟩
        obtain ⟨h, hc⟩ := runAt_cons_iff.mp h
        cases i with
        | zero => exact Or.inl ⟨h, hc rfl⟩
        | succ i => exact Or.inr ⟨i, h⟩
      · rintro (⟨h, hc⟩ | ⟨i, h⟩)
        · exact ⟨0, runAt_cons_iff.mpr ⟨h, fun _ => hc⟩⟩
        · exact ⟨i + 1, runAt_cons_iff.mpr ⟨h, by simp⟩⟩
    rw [hrest, ← ih, List.splitOnP_cons_eq_if_modifyHead, runAt_zero_iff]
    cases hc : separates c with
    | true =>
      rw [if_pos rfl, List.tail_cons, splitOnP_eq_cons, List.mem_cons, List.tail_cons]
      simp [hne]
    | false => simp

/-- The pieces of a text that are not empty are its runs. -/
theorem mem_splitOnP_iff (hne : run ≠ []) :
    run ∈ s.splitOnP separates ↔ ∃ i, RunAt separates s i run := by
  rw [splitOnP_eq_cons, List.mem_cons, mem_tail_splitOnP_iff hne]
  constructor
  · rintro (h | ⟨i, h⟩)
    · exact ⟨0, runAt_zero_iff.mpr ⟨hne, h⟩⟩
    · exact ⟨i + 1, h⟩
  · rintro ⟨i, h⟩
    cases i with
    | zero => exact Or.inl (runAt_zero_iff.mp h).2
    | succ i => exact Or.inr ⟨i, h⟩

end

/-! The pieces between the places of one character. -/

theorem splitOn_cons_of_ne {sep c : Char} (h : c ≠ sep) (text : List Char) :
    ∃ first more, splitOn sep text = first :: more ∧
      splitOn sep (c :: text) = (c :: first) :: more := by
  have hne : splitOn sep text ≠ [] := by
    fun_cases splitOn sep text <;> simp
  obtain ⟨first, more, hparts⟩ := List.exists_cons_of_ne_nil hne
  refine ⟨first, more, hparts, ?_⟩
  simp only [splitOn, if_neg h, hparts]

theorem splitOn_eq_splitOnP (sep : Char) (s : List Char) :
    splitOn sep s = s.splitOnP (· == sep) := by
  induction s with
  | nil => rfl
  | cons c s ih =>
    rw [List.splitOnP_cons_eq_if_modifyHead, ← ih]
    by_cases hc : c = sep
    · simp [splitOn, hc]
    · obtain ⟨first, more, hparts, hcons⟩ := splitOn_cons_of_ne hc s
      simp [hcons, hparts, hc]

theorem sep_notMem_of_mem_splitOn {sep : Char} {s piece : List Char}
    (h : piece ∈ splitOn sep s) : sep ∉ piece := by
  intro hsep
  rw [splitOn_eq_splitOnP, mem_splitOnP_iff (List.ne_nil_of_mem hsep)] at h
  obtain ⟨i, hrun⟩ := h
  simpa using hrun.plain sep hsep

end PatternServer.Text
