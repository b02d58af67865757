import PatternServer.Text.WordChar

/-!
# Patterns with backtracking

A pattern is tried at a place of a text in all ways in which its repetitions and options can be
read, the greedy way first; what is found is the first way that works out. So a pattern is the list
of these ways. A search tries one place after the other, and goes on behind what it has found.

The classes of characters that are repeated here have no character in common: white space is neither
a part of words nor of names.
-/

namespace PatternServer.Text

set_option autoImplicit false

/-- The ways to match at the front of a text, each with a result and what it leaves of the text. A
way comes before those to which matching falls back from it. -/
def Matcher (α : Type) : Type := List Char → List (α × List Char)

namespace Matcher

variable {α β : Type}

instance : Monad Matcher where
  pure a := fun s => [(a, s)]
  bind m f := fun s => (m s).flatMap fun way => f way.1 way.2

/-- A character of a class. -/
def one (p : Char → Bool) : Matcher Char
  | [] => []
  | c :: s => if p c then [(c, s)] else []

/-- As many characters of a class as follow, and then fewer and fewer. -/
def many (p : Char → Bool) : Matcher (List Char)
  | [] => [([], [])]
  | c :: s =>
    if p c then (many p s).map (fun way => (c :: way.1, way.2)) ++ [([], c :: s)]
    else [([], c :: s)]

/-- A character of a class, or else nothing. -/
def optional (p : Char → Bool) : Matcher (Option Char) :=
  fun s => (one p s).map (fun way => (some way.1, way.2)) ++ [(none, s)]

/-- The end of the text, or the place before a line feed at its end. -/
def atEnd : Matcher Unit :=
  fun s => if s = [] ∨ s = ['\n'] then [((), s)] else []

/-- What is found at the front of a text. -/
def first? (m : Matcher α) (s : List Char) : Option (α × List Char) :=
  (m s).head?

/-- The result at the first place of a text where there is one. -/
def search (m : Matcher α) : List Char → Option α
  | [] => (m.first? []).map (·.1)
  | c :: s => ((m.first? (c :: s)).map (·.1)).or (search m s)

/-- The places and results of a pattern that does not match the empty text, in a text that begins at
`offset` and of which `taken` characters belong to the last match. -/
def allFrom (m : Matcher α) : (offset taken : Nat) → List Char → List (Nat × α)
  | _, _, [] => []
  | offset, taken + 1, _ :: s => allFrom m (offset + 1) taken s
  | offset, 0, c :: s =>
    match m.first? (c :: s) with
    | some (a, rest) => (offset, a) :: allFrom m (offset + 1) (s.length - rest.length) s
    | none => allFrom m (offset + 1) 0 s

section Ways
variable {p : Char → Bool} {s t : List Char}

@[simp] theorem mem_bind {m : Matcher α} {f : α → Matcher β} {b : β} :
    (b, t) ∈ (m >>= f) s ↔ ∃ a u, (a, u) ∈ m s ∧ (b, t) ∈ f a u := by
  simp [Bind.bind, List.mem_flatMap]

@[simp] theorem mem_pure {a b : α} : (b, t) ∈ (pure a : Matcher α) s ↔ b = a ∧ t = s := by
  simp [Pure.pure]

@[simp] theorem mem_one {c : Char} : (c, t) ∈ one p s ↔ s = c :: t ∧ p c = true := by
  cases s with
  | nil => simp [one]
  | cons d s =>
    by_cases hd : p d = true
    · simp only [one, if_pos hd, List.mem_singleton, Prod.mk.injEq, List.cons.injEq]
      constructor
      · rintro ⟨rfl, rfl⟩
        exact ⟨⟨rfl, rfl⟩, hd⟩
      · rintro ⟨⟨rfl, rfl⟩, -⟩
        exact ⟨rfl, rfl⟩
    · simp only [one, if_neg hd, List.not_mem_nil, false_iff, List.cons.injEq]
      rintro ⟨⟨rfl, -⟩, hc⟩
      exact hd hc

theorem nil_mem_many : ([], t) ∈ many p s ↔ t = s := by
  cases s with
  | nil => simp [many]
  | cons d s => by_cases hd : p d = true <;> simp [many, hd]

theorem cons_mem_many {c d : Char} {run : List Char} :
    (c :: run, t) ∈ many p (d :: s) ↔ d = c ∧ p d = true ∧ (run, t) ∈ many p s := by
  by_cases hd : p d = true
  · rw [many, if_pos hd, List.mem_append, List.mem_map]
    constructor
    · rintro (⟨way, hway, heq⟩ | hnil)
      · cases heq
        exact ⟨rfl, hd, hway⟩
      · simp at hnil
    · rintro ⟨rfl, -, hway⟩
      exact Or.inl ⟨_, hway, rfl⟩
  · simp [many, hd]

@[simp] theorem mem_many {run : List Char} :
    (run, t) ∈ many p s ↔ s = run ++ t ∧ ∀ c ∈ run, p c = true := by
  induction run generalizing s with
  | nil =>
    rw [nil_mem_many, List.nil_append, eq_comm]
    simp
  | cons c run ih =>
    cases s with
    | nil => simp [many]
    | cons d s =>
      rw [cons_mem_many, ih, List.cons_append, List.cons.injEq, List.forall_mem_cons]
      constructor
      · rintro ⟨rfl, hd, rfl, hrun⟩
        exact ⟨⟨rfl, rfl⟩, hd, hrun⟩
      · rintro ⟨⟨rfl, rfl⟩, hd, hrun⟩
        exact ⟨rfl, hd, rfl, hrun⟩

@[simp] theorem mem_optional {o : Option Char} :
    (o, t) ∈ optional p s ↔ s = o.toList ++ t ∧ ∀ c ∈ o, p c = true := by
  cases o with
  | none =>
    rw [Option.toList_none, List.nil_append, eq_comm (a := s)]
    simp [optional]
  | some c => simp [optional]

@[simp] theorem mem_atEnd {u : Unit} : (u, t) ∈ atEnd s ↔ t = s ∧ (s = [] ∨ s = ['\n']) := by
  unfold atEnd
  split
  · rename_i hs
    simp [hs]
  · rename_i hs
    simp [hs]

end Ways

/-! What is found. -/

section Found
variable {m : Matcher α} {s rest : List Char} {a : α}

theorem mem_of_first? (h : m.first? s = some (a, rest)) : (a, rest) ∈ m s :=
  List.mem_of_head? h

theorem notMem_of_first? (h : m.first? s = none) : (a, rest) ∉ m s := by
  rw [List.head?_eq_none_iff.mp h]
  exact List.not_mem_nil

/-- A search that finds something has found it at the first place where the pattern matches. -/
theorem search_leftmost (h : m.search s = some a) :
    ∃ front back rest, s = front ++ back ∧ (a, rest) ∈ m back ∧
      ∀ front' back' b rest', s = front' ++ back' → (b, rest') ∈ m back' →
        front.length ≤ front'.length := by
  induction s with
  | nil =>
    obtain ⟨⟨_, rest⟩, hfirst, rfl⟩ := Option.map_eq_some_iff.mp h
    exact ⟨[], [], rest, rfl, mem_of_first? hfirst, fun _ _ _ _ _ _ => Nat.zero_le _⟩
  | cons c s ih =>
    cases hfirst : m.first? (c :: s) with
    | some way =>
      obtain ⟨b, rest⟩ := way
      rw [search, hfirst, Option.map_some, Option.some_or] at h
      cases h
      exact ⟨[], c :: s, rest, rfl, mem_of_first? hfirst, fun _ _ _ _ _ _ => Nat.zero_le _⟩
    | none =>
      rw [search, hfirst, Option.map_none, Option.none_or] at h
      obtain ⟨front, back, rest, rfl, hmem, hleft⟩ := ih h
      refine ⟨c :: front, back, rest, rfl, hmem, ?_⟩
      intro front' back' b rest' hs hmem'
      cases front' with
      | nil =>
        rw [List.nil_append] at hs
        rw [← hs] at hmem'
        exact absurd hmem' (notMem_of_first? hfirst)
      | cons d front' =>
        have hle := hleft front' back' b rest' (List.cons.inj hs).2 hmem'
        exact Nat.succ_le_succ hle

theorem search_ne_none {front back : List Char} (h : (a, rest) ∈ m back) :
    m.search (front ++ back) ≠ none := by
  have hfirst : m.first? back ≠ none := fun hnone => notMem_of_first? hnone h
  induction front with
  | nil => cases back <;> simpa [search] using fun hnone => absurd hnone hfirst
  | cons c front ih =>
    rw [List.cons_append, search, Ne, Option.or_eq_none_iff]
    exact fun hnone => ih hnone.2

end Found

end Matcher

/-! Runs, and classes of characters. -/

section Runs
variable {p : Char → Bool} {run rest : List Char}

theorem takeWhile_run (hrun : ∀ c ∈ run, p c = true) (hrest : ∀ c ∈ rest.head?, p c = false) :
    (run ++ rest).takeWhile p = run := by
  rw [List.takeWhile_append_of_pos hrun]
  cases rest with
  | nil => simp
  | cons d rest => simp [hrest d rfl]

theorem dropWhile_run (hrun : ∀ c ∈ run, p c = true) (hrest : ∀ c ∈ rest.head?, p c = false) :
    (run ++ rest).dropWhile p = rest := by
  rw [List.dropWhile_append_of_pos hrun]
  cases rest with
  | nil => rfl
  | cons d rest => simp [hrest d rfl]

end Runs

/-- No range of one table meets one of the other. -/
def CharRange.apart (ranges others : List (Nat × Nat)) : Bool :=
  ranges.all fun r => others.all fun o => r.2 < o.1 || o.2 < r.1

theorem CharRange.contains_eq_false {ranges others : List (Nat × Nat)}
    (h : CharRange.apart ranges others = true) {c : Char}
    (hc : CharRange.contains ranges c = true) : CharRange.contains others c = false := by
  obtain ⟨r, hr, hin⟩ := List.any_eq_true.mp hc
  have hrow := List.all_eq_true.mp h r hr
  rw [CharRange.contains, List.any_eq_false]
  intro o ho
  have hcell := List.all_eq_true.mp hrow o ho
  simp only [Bool.and_eq_true, Bool.or_eq_true, decide_eq_true_eq] at hin hcell ⊢
  omega

theorem isBlank_of_isWordChar {c : Char} (h : isWordChar c = true) : isBlank c = false :=
  CharRange.contains_eq_false (by decide +kernel) h

/-- The characters of names as a table of code points. -/
def nameRanges : List (Nat × Nat) :=
  [(0x30, 0x39), (0x41, 0x5A), (0x5F, 0x5F), (0x61, 0x7A)]

theorem contains_of_isNameChar {c : Char} (h : isNameChar c = true) :
    CharRange.contains nameRanges c = true := by
  rw [isNameChar] at h
  delta Char.isAlphanum Char.isAlpha Char.isUpper Char.isLower Char.isDigit at h
  simp only [Bool.or_eq_true, Bool.and_eq_true, decide_eq_true_eq, beq_iff_eq, ge_iff_le,
    UInt32.le_iff_toNat_le] at h
  simp only [CharRange.contains, nameRanges, List.any_cons, List.any_nil, Bool.or_false,
    Bool.or_eq_true, Bool.and_eq_true, decide_eq_true_eq]
  rcases h with ((hupper | hlower) | hdigit) | rfl
  · exact Or.inr (Or.inl hupper)
  · exact Or.inr (Or.inr (Or.inr hlower))
  · exact Or.inl hdigit
  · decide

theorem isNameChar_of_isBlank {c : Char} (h : isBlank c = true) : isNameChar c = false := by
  apply Bool.eq_false_iff.mpr
  intro hname
  have hblank : isBlank c = false :=
    CharRange.contains_eq_false (by decide +kernel) (contains_of_isNameChar hname)
  rw [hblank] at h
  cases h

end PatternServer.Text
