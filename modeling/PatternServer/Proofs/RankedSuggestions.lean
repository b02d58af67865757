import Mathlib.Data.List.Sort
import PatternServer.Vocabulary.Similarity

/-!
# The order of suggestions

A word without a correction is offered the names that stand first when those near it are ranked by
their distance, and by their place in the vocabulary where the distances are equal. Places are told
apart and not names, since a vocabulary may hold a name more than once.

The names are sorted by the distance alone. That the sort is stable is used in two ways: in what it
makes of a list that is ordered in some other way already, and in that it keeps the names of each
single distance as they were.
-/

namespace PatternServer.Vocabulary

set_option autoImplicit false

open PatternServer.Text

/-! Stable sorting by a key. -/

section Key
variable {α : Type} (key : α → Nat)

theorem keyLe_trans (x y z : α) (hxy : decide (key x ≤ key y) = true)
    (hyz : decide (key y ≤ key z) = true) : decide (key x ≤ key z) = true := by
  simp only [decide_eq_true_eq] at *
  exact Nat.le_trans hxy hyz

theorem keyLe_total (x y : α) : (decide (key x ≤ key y) || decide (key y ≤ key x)) = true := by
  simpa using Nat.le_total (key x) (key y)

theorem pairwise_mergeSort_key (l : List α) :
    (l.mergeSort fun x y => key x ≤ key y).Pairwise fun x y => key x ≤ key y := by
  simpa using List.pairwise_mergeSort (keyLe_trans key) (keyLe_total key) l

/-- A new first item goes behind all items with a smaller key, and before all others. -/
theorem mergeSort_key_cons (x : α) (l : List α) :
    ∃ l₁ l₂, ((x :: l).mergeSort fun x y => key x ≤ key y) = l₁ ++ x :: l₂ ∧
      (l.mergeSort fun x y => key x ≤ key y) = l₁ ++ l₂ ∧ (∀ y ∈ l₁, key y < key x) ∧
      ∀ y ∈ l₂, key x ≤ key y := by
  obtain ⟨l₁, l₂, hcons, hl, hsmaller⟩ :=
    List.mergeSort_cons (keyLe_trans key) (keyLe_total key) x l
  refine ⟨l₁, l₂, hcons, hl, by simpa using hsmaller, ?_⟩
  have hsorted := pairwise_mergeSort_key key (x :: l)
  rw [hcons] at hsorted
  exact (List.pairwise_cons.mp (List.pairwise_append.mp hsorted).2.1).1

/-- Items with equal keys stay in the order that they were in. -/
theorem pairwise_mergeSort_ties {r : α → α → Prop} {l : List α} (h : l.Pairwise r) :
    (l.mergeSort fun x y => key x ≤ key y).Pairwise fun x y =>
      key x < key y ∨ key x = key y ∧ r x y := by
  induction l with
  | nil => simp
  | cons x l ih =>
    obtain ⟨hx, hrest⟩ := List.pairwise_cons.mp h
    obtain ⟨l₁, l₂, hcons, hl, hsmaller, hlarger⟩ := mergeSort_key_cons key x l
    have hsorted := ih hrest
    rw [hl] at hsorted
    obtain ⟨h₁, h₂, hacross⟩ := List.pairwise_append.mp hsorted
    rw [hcons, List.pairwise_append, List.pairwise_cons]
    refine ⟨h₁, ⟨?_, h₂⟩, ?_⟩
    · intro y hy
      have hmem : y ∈ l := by
        rw [← List.mem_mergeSort, hl]
        exact List.mem_append_right l₁ hy
      rcases Nat.lt_or_eq_of_le (hlarger y hy) with hlt | heq
      · exact Or.inl hlt
      · exact Or.inr ⟨heq, hx y hmem⟩
    · intro y hy z hz
      rcases List.mem_cons.mp hz with rfl | hz
      · exact Or.inl (hsmaller y hy)
      · exact hacross y hy z hz

theorem filter_mergeSort_key (k : Nat) (l : List α) :
    (l.mergeSort fun x y => key x ≤ key y).filter (key · = k) = l.filter (key · = k) := by
  induction l with
  | nil => simp
  | cons x l ih =>
    obtain ⟨l₁, l₂, hcons, hl, hsmaller, _⟩ := mergeSort_key_cons key x l
    rw [hl, List.filter_append] at ih
    rw [hcons, List.filter_append, List.filter_cons, List.filter_cons, ← ih]
    by_cases hk : key x = k
    · have hnone : l₁.filter (key · = k) = [] := by
        rw [List.filter_eq_nil_iff]
        intro y hy
        have hlt := hsmaller y hy
        simp only [decide_eq_true_eq]
        omega
      simp [hk, hnone]
    · simp [hk]

/-- A sorted list begins with an item of the least key that there is. -/
theorem key_le_of_filter_eq {x y : α} {l l' : List α}
    (hsorted : (x :: l).Pairwise fun x y => key x ≤ key y)
    (h : ∀ k, (x :: l).filter (key · = k) = (y :: l').filter (key · = k)) : key x ≤ key y := by
  have hmem : y ∈ (x :: l).filter (key · = key y) := by
    rw [h]
    simp
  rcases List.mem_cons.mp (List.mem_filter.mp hmem).1 with rfl | hy
  · exact Nat.le_refl _
  · exact (List.pairwise_cons.mp hsorted).1 y hy

/-- A sorted list is known from its items of each key. -/
theorem eq_of_filter_key_eq {l l' : List α} (hl : l.Pairwise fun x y => key x ≤ key y)
    (hl' : l'.Pairwise fun x y => key x ≤ key y)
    (h : ∀ k, l.filter (key · = k) = l'.filter (key · = k)) : l = l' := by
  induction l generalizing l' with
  | nil =>
    cases l' with
    | nil => rfl
    | cons y l' => simpa using h (key y)
  | cons x l ih =>
    cases l' with
    | nil => simpa using h (key x)
    | cons y l' =>
      have hkey : key x = key y := Nat.le_antisymm (key_le_of_filter_eq key hl h)
        (key_le_of_filter_eq key hl' fun k => (h k).symm)
      have hfirst := h (key y)
      simp only [List.filter_cons, hkey, decide_true, if_true, List.cons.injEq] at hfirst
      obtain ⟨rfl, _⟩ := hfirst
      congr 1
      apply ih hl.of_cons hl'.of_cons
      intro k
      have hk := h k
      simp only [List.filter_cons] at hk
      split at hk
      · exact (List.cons.inj hk).2
      · exact hk

theorem mergeSort_eq_of_filter_key_eq {l l' : List α}
    (h : ∀ k, l.filter (key · = k) = l'.filter (key · = k)) :
    (l.mergeSort fun x y => key x ≤ key y) = l'.mergeSort fun x y => key x ≤ key y := by
  apply eq_of_filter_key_eq key (pairwise_mergeSort_key key l) (pairwise_mergeSort_key key l')
  intro k
  rw [filter_mergeSort_key, filter_mergeSort_key, h]

end Key

/-! Ranks in a vocabulary. -/

/-- How far a name is from a word, letter case apart. -/
def wordDistance (word name : String) : Nat :=
  editDistance (lower word.toList) (lower name.toList)

/-- Whether a name is offered for a word if there is room. -/
def isNear (word : String) (limit : Int) (name : String) : Bool :=
  0 < wordDistance word name && (wordDistance word name : Int) ≤ limit

/-- One place of a vocabulary comes before another one: its name is nearer to the word, or as near
and earlier. -/
def Ahead (word : String) (vocabulary : List String) (i j : Fin vocabulary.length) : Prop :=
  wordDistance word (vocabulary.get i) < wordDistance word (vocabulary.get j) ∨
    wordDistance word (vocabulary.get i) = wordDistance word (vocabulary.get j) ∧ i < j

/-- The places of a vocabulary whose names are near a word but not the word itself, in their
order. -/
structure Ranks (word : String) (limit : Int) (vocabulary : List String)
    (ranked : List (Fin vocabulary.length)) : Prop where
  mem_iff : ∀ i, i ∈ ranked ↔
    0 < wordDistance word (vocabulary.get i) ∧
      (wordDistance word (vocabulary.get i) : Int) ≤ limit
  ordered : ranked.Pairwise (Ahead word vocabulary)

def ranking (word : String) (limit : Int) (vocabulary : List String) :
    List (Fin vocabulary.length) :=
  ((List.finRange vocabulary.length).filter fun i => isNear word limit (vocabulary.get i)).mergeSort
    fun i j => wordDistance word (vocabulary.get i) ≤ wordDistance word (vocabulary.get j)

section Ranking
variable (word : String) (limit : Int) (vocabulary : List String)

theorem ranks_ranking : Ranks word limit vocabulary (ranking word limit vocabulary) := by
  constructor
  · intro i
    simp [ranking, isNear]
  · have hplaces := (List.pairwise_lt_finRange vocabulary.length).filter
      fun i => isNear word limit (vocabulary.get i)
    exact pairwise_mergeSort_ties (fun i => wordDistance word (vocabulary.get i)) hplaces

variable {word limit vocabulary}

theorem Ranks.unique {ranked ranked' : List (Fin vocabulary.length)}
    (h : Ranks word limit vocabulary ranked) (h' : Ranks word limit vocabulary ranked') :
    ranked = ranked' := by
  have : Std.Irrefl (Ahead word vocabulary) :=
    ⟨fun i hi => by
      rcases hi with hlt | ⟨_, hlt⟩
      · exact Nat.lt_irrefl _ hlt
      · exact Fin.lt_irrefl i hlt⟩
  have : Std.Antisymm (Ahead word vocabulary) :=
    ⟨fun i j hij hji => by
      unfold Ahead at hij hji
      omega⟩
  exact h.ordered.eq_of_mem_iff h'.ordered fun i => (h.mem_iff i).trans (h'.mem_iff i).symm

variable (word limit vocabulary)

theorem nearest_eq_map_ranking :
    nearest (lower word.toList) vocabulary limit =
      (ranking word limit vocabulary).map fun i =>
        (wordDistance word (vocabulary.get i), vocabulary.get i) := by
  rw [ranking, List.map_mergeSort (s := fun s t : Nat × String => s.1 ≤ t.1) fun _ _ _ _ => rfl]
  have hscored : (vocabulary.map fun name => (wordDistance word name, name)) =
      (List.finRange vocabulary.length).map fun i =>
        (wordDistance word (vocabulary.get i), vocabulary.get i) := by
    conv_lhs => rw [← List.map_get_finRange vocabulary, List.map_map]
    rfl
  change (((vocabulary.map fun name => (wordDistance word name, name)).filter _).mergeSort _) = _
  rw [hscored, List.filter_map]
  rfl

theorem filter_swap {p : String → Bool} {x y : String} (h : p x = false ∨ p y = false)
    (before after : List String) :
    (before ++ y :: x :: after).filter p = (before ++ x :: y :: after).filter p := by
  rcases h with h | h <;> simp [List.filter_cons, h]

/-- Neighbours in the vocabulary that are not equally near may change places. -/
theorem nearest_swap {x y : String} (h : wordDistance word x ≠ wordDistance word y)
    (before after : List String) :
    nearest (lower word.toList) (before ++ y :: x :: after) limit =
      nearest (lower word.toList) (before ++ x :: y :: after) limit := by
  apply mergeSort_eq_of_filter_key_eq Prod.fst
  intro k
  -- Of the two names one at most is at the distance `k`.
  have hone : wordDistance word x ≠ k ∨ wordDistance word y ≠ k := by
    by_contra hboth
    push Not at hboth
    exact h (hboth.1.trans hboth.2.symm)
  rw [List.filter_filter, List.filter_filter, List.filter_map, List.filter_map, filter_swap]
  refine hone.imp ?_ ?_
  all_goals
    intro hk
    simp only [Function.comp_apply, Bool.and_eq_false_iff, decide_eq_false_iff_not]
    exact Or.inl hk

end Ranking

/-! What is offered. -/

theorem find?_map_eq_lookup (corrections : List (String × String)) (form : String) :
    (corrections.find? fun c => c.1 == form).map (·.2) = corrections.lookup form := by
  induction corrections with
  | nil => rfl
  | cons c corrections ih =>
    rw [List.find?_cons, List.lookup_cons, BEq.comm (a := form)]
    cases c.1 == form with
    | true => rfl
    | false => exact ih

theorem suggestWith_of_lookup {corrections : List (String × String)} {word w : String}
    (h : corrections.lookup (lowerName word) = some w) (limit : Int) (vocabulary : List String) :
    suggestWith corrections limit word vocabulary = [w] := by
  rw [← find?_map_eq_lookup, Option.map_eq_some_iff] at h
  obtain ⟨c, hc, rfl⟩ := h
  simp only [suggestWith, hc]

theorem suggestWith_of_lookup_none {corrections : List (String × String)} {word : String}
    (h : corrections.lookup (lowerName word) = none) (limit : Int) (vocabulary : List String) :
    suggestWith corrections limit word vocabulary =
      ((nearest (lower word.toList) vocabulary limit).take 3).map (·.2) := by
  rw [← find?_map_eq_lookup, Option.map_eq_none_iff] at h
  have hform : (lowerName word).toList = lower word.toList := String.toList_ofList
  simp only [suggestWith, h, hform, maxSuggestions]

theorem suggestWith_eq_of_ranks {corrections : List (String × String)} {word : String}
    (h : corrections.lookup (lowerName word) = none) {limit : Int} {vocabulary : List String}
    {ranked : List (Fin vocabulary.length)} (hranked : Ranks word limit vocabulary ranked) :
    suggestWith corrections limit word vocabulary = (ranked.take 3).map vocabulary.get := by
  rw [suggestWith_of_lookup_none h, nearest_eq_map_ranking, ← List.map_take, List.map_map,
    hranked.unique (ranks_ranking word limit vocabulary)]
  rfl

theorem suggestWith_swap (corrections : List (String × String)) {word x y : String}
    (h : wordDistance word x ≠ wordDistance word y) (limit : Int) (before after : List String) :
    suggestWith corrections limit word (before ++ y :: x :: after) =
      suggestWith corrections limit word (before ++ x :: y :: after) := by
  cases hlookup : corrections.lookup (lowerName word) with
  | none =>
    rw [suggestWith_of_lookup_none hlookup, suggestWith_of_lookup_none hlookup,
      nearest_swap word limit h]
  | some w => rw [suggestWith_of_lookup hlookup, suggestWith_of_lookup hlookup]

/-- A word that has a correction is offered the correction and nothing else. Any other word is
offered the names at the first three places, or as many as there are, of those that are near it,
ranked by their distance and then by their place. No near place that is left out is ahead of one
that is not. Neighbours in the vocabulary that are not equally near may change places. -/
theorem suggestWith_best_three (corrections : List (String × String)) (limit : Int)
    (word : String) (vocabulary : List String) :
    (∀ w, corrections.lookup (lowerName word) = some w →
      suggestWith corrections limit word vocabulary = [w]) ∧
    (corrections.lookup (lowerName word) = none →
      (∃ ranked, Ranks word limit vocabulary ranked) ∧
      ∀ ranked, Ranks word limit vocabulary ranked →
        suggestWith corrections limit word vocabulary = (ranked.take 3).map vocabulary.get ∧
        ∀ i ∈ ranked.take 3, ∀ j ∈ ranked, j ∉ ranked.take 3 → Ahead word vocabulary i j) ∧
    ∀ before x y after, vocabulary = before ++ x :: y :: after →
      wordDistance word x ≠ wordDistance word y →
      suggestWith corrections limit word (before ++ y :: x :: after) =
        suggestWith corrections limit word vocabulary := by
  refine ⟨fun w hw => suggestWith_of_lookup hw limit vocabulary, ?_, ?_⟩
  · intro hnone
    refine ⟨⟨_, ranks_ranking word limit vocabulary⟩, ?_⟩
    intro ranked hranked
    refine ⟨suggestWith_eq_of_ranks hnone hranked, ?_⟩
    intro i hi j hj hleft
    apply hranked.ordered.rel_of_mem_take_of_mem_drop hi
    rw [← List.take_append_drop 3 ranked] at hj
    exact (List.mem_append.mp hj).resolve_left hleft
  · rintro before x y after rfl hne
    exact suggestWith_swap corrections hne limit before after

example : suggestWith [] 2 "ba" ["bcd", "bb", "BA", "aa", "bb"] = ["bb", "aa", "bb"] := by
  cbv

end PatternServer.Vocabulary
