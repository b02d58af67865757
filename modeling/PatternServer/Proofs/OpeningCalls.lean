import PatternServer.Proofs.Backtracking
import PatternServer.Proofs.ScansByOffset

/-!
# The call that is opened before an offset

The window before an offset ends in the opening of a call if nothing but white space stands behind
its last parenthesis and between that and a word. The name of the call is the word as far as the
window shows it, so there is at most one. It is read from the end of the window backwards.

A search for the pattern of an opening goes through the window from the front and takes the first
place where the rest of the window fits. That place is the front of the word or a dot before it,
also when the end of the window is a line feed that the pattern need not reach.
-/

namespace PatternServer.Document

set_option autoImplicit false

open PatternServer.Text

/-- Perhaps a dot, then a word, and a parenthesis with white space around it at the end. -/
def openingPattern : Matcher (List Char) := do
  let _ ← Matcher.optional (· == '.')
  let first ← Matcher.one isWordChar
  let more ← Matcher.many isWordChar
  let _ ← Matcher.many isBlank
  let _ ← Matcher.one (· == '(')
  let _ ← Matcher.many isBlank
  Matcher.atEnd
  return first :: more

/-- A word, and a parenthesis with white space around it. -/
structure Opening (s name : List Char) : Prop where
  ne_nil : name ≠ []
  word : ∀ c ∈ name, isWordChar c = true
  split : ∃ u v, s = name ++ (u ++ '(' :: v) ∧ (∀ c ∈ u, isBlank c = true) ∧
    ∀ c ∈ v, isBlank c = true

/-- A text that ends in the opening of a call, with no more of the name before it. -/
def EndsOpening (window name : List Char) : Prop :=
  ∃ front back, window = front ++ back ∧ Opening back name ∧
    ∀ c ∈ front.getLast?, isWordChar c = false

theorem Opening.cons {s name : List Char} (h : Opening s name) {c : Char}
    (hc : isWordChar c = true) : Opening (c :: s) (c :: name) := by
  obtain ⟨-, hword, u, v, rfl, hblanks⟩ := h
  exact ⟨by simp, List.forall_mem_cons.mpr ⟨hc, hword⟩, u, v, rfl, hblanks⟩

/-! From the end backwards. -/

/-- Backwards, white space and the parenthesis come first, then white space and the word. -/
theorem openingName?_eq_some_iff {before name : List Char} :
    openingName? before = some name ↔
      ∃ v u front, before = v ++ '(' :: (u ++ (name.reverse ++ front)) ∧ name ≠ [] ∧
        (∀ c ∈ name, isWordChar c = true) ∧ (∀ c ∈ u, isBlank c = true) ∧
        (∀ c ∈ v, isBlank c = true) ∧ ∀ c ∈ front.head?, isWordChar c = false := by
  constructor
  · intro h
    unfold openingName? at h
    split at h
    · rename_i tail hparen
      split at h
      · cases h
      · rename_i hname
        cases h
        refine ⟨before.takeWhile isBlank, tail.takeWhile isBlank,
          (tail.dropWhile isBlank).dropWhile isWordChar, ?_, hname, ?_,
          fun _ => List.mem_takeWhile_imp, fun _ => List.mem_takeWhile_imp, ?_⟩
        · rw [List.reverse_reverse, List.takeWhile_append_dropWhile,
            List.takeWhile_append_dropWhile, ← hparen, List.takeWhile_append_dropWhile]
        · intro c hc
          exact List.mem_takeWhile_imp (List.mem_reverse.mp hc)
        · intro c hc
          have hhead := List.head?_dropWhile_not isWordChar (tail.dropWhile isBlank)
          rw [Option.mem_def.mp hc] at hhead
          simpa using hhead
    · cases h
  · rintro ⟨v, u, front, rfl, hne, hword, hu, hv, hfront⟩
    have hopen : isBlank '(' = false := by decide
    have hparen : (v ++ '(' :: (u ++ (name.reverse ++ front))).dropWhile isBlank =
        '(' :: (u ++ (name.reverse ++ front)) := dropWhile_run hv (by simpa using hopen)
    have hbetween : (u ++ (name.reverse ++ front)).dropWhile isBlank = name.reverse ++ front := by
      apply dropWhile_run hu
      intro c hc
      have hlast : c ∈ name.getLast? := by simpa [List.getLast?_eq_some_getLast hne] using hc
      exact isBlank_of_isWordChar (hword c (List.mem_of_getLast? hlast))
    have hname : (name.reverse ++ front).takeWhile isWordChar = name.reverse :=
      takeWhile_run (by simpa using hword) hfront
    obtain ⟨c, more, rfl⟩ := List.exists_cons_of_ne_nil hne
    simp only [openingName?, hparen, hbetween, hname, List.reverse_reverse]

theorem openingName?_reverse_iff {window name : List Char} :
    openingName? window.reverse = some name ↔ EndsOpening window name := by
  rw [openingName?_eq_some_iff]
  constructor
  · rintro ⟨v, u, front, hwindow, hne, hword, hu, hv, hfront⟩
    refine ⟨front.reverse, name ++ (u.reverse ++ '(' :: v.reverse), ?_,
      ⟨hne, hword, u.reverse, v.reverse, rfl, by simpa using hu, by simpa using hv⟩, ?_⟩
    · rw [← List.reverse_reverse window, hwindow]
      simp
    · rwa [List.getLast?_reverse]
  · rintro ⟨front, _, rfl, ⟨hne, hword, u, v, rfl, hu, hv⟩, hfront⟩
    refine ⟨v.reverse, u.reverse, front.reverse, by simp, hne, hword, by simpa using hu,
      by simpa using hv, ?_⟩
    rwa [List.head?_reverse]

theorem EndsOpening.unique {window a b : List Char} (ha : EndsOpening window a)
    (hb : EndsOpening window b) : a = b := by
  rw [← openingName?_reverse_iff] at ha hb
  exact Option.some.inj (ha.symm.trans hb)

/-! From the front, by the pattern. -/

theorem mem_openingPattern {s name rest : List Char} (h : (name, rest) ∈ openingPattern s) :
    Opening s name ∨ ∃ tail, s = '.' :: tail ∧ Opening tail name := by
  simp only [openingPattern, Matcher.mem_bind, Matcher.mem_one, Matcher.mem_many,
    Matcher.mem_optional, Matcher.mem_atEnd, Matcher.mem_pure] at h
  obtain ⟨dot, _, ⟨rfl, hdot⟩, first, _, ⟨rfl, hfirst⟩, more, _, ⟨rfl, hmore⟩, u, _, ⟨rfl, hu⟩,
    paren, _, ⟨rfl, hparen⟩, v, _, ⟨rfl, hv⟩, _, _, ⟨rfl, hend⟩, rfl, rfl⟩ := h
  obtain rfl : paren = '(' := by simpa using hparen
  -- A line feed that the end of the pattern has left is white space too.
  have hafter : ∀ c ∈ v ++ rest, isBlank c = true := by
    intro c hc
    rcases List.mem_append.mp hc with hc | hc
    · exact hv c hc
    · rcases hend with rfl | rfl
      · cases hc
      · rw [List.mem_singleton.mp hc]
        decide
  have hopening : Opening (first :: (more ++ (u ++ '(' :: (v ++ rest)))) (first :: more) :=
    ⟨by simp, List.forall_mem_cons.mpr ⟨hfirst, hmore⟩, u, v ++ rest, rfl, hu, hafter⟩
  cases dot with
  | none => exact Or.inl hopening
  | some c =>
    obtain rfl : c = '.' := by simpa using hdot c rfl
    exact Or.inr ⟨_, rfl, hopening⟩

theorem Opening.exists_way {s name : List Char} (h : Opening s name) :
    ∃ rest, (name, rest) ∈ openingPattern s := by
  obtain ⟨hne, hword, u, v, rfl, hu, hv⟩ := h
  obtain ⟨first, more, rfl⟩ := List.exists_cons_of_ne_nil hne
  obtain ⟨hfirst, hmore⟩ := List.forall_mem_cons.mp hword
  refine ⟨[], ?_⟩
  simp only [openingPattern, Matcher.mem_bind, Matcher.mem_one, Matcher.mem_many,
    Matcher.mem_optional, Matcher.mem_atEnd, Matcher.mem_pure]
  exact ⟨none, _, ⟨rfl, by simp⟩, first, _, ⟨rfl, hfirst⟩, more, _, ⟨rfl, hmore⟩, u, _, ⟨rfl, hu⟩,
    '(', _, ⟨rfl, rfl⟩, v, [], ⟨(List.append_nil v).symm, hv⟩, (), [], ⟨rfl, Or.inl rfl⟩, rfl, rfl⟩

/-- What the search finds first is the whole word: were there one more character of it before, the
pattern would have matched there already. -/
theorem endsOpening_of_search {window name : List Char}
    (h : openingPattern.search window = some name) : EndsOpening window name := by
  obtain ⟨front, back, rest, rfl, hmem, hleft⟩ := Matcher.search_leftmost h
  rcases mem_openingPattern hmem with hopening | ⟨tail, rfl, hopening⟩
  · refine ⟨front, back, rfl, hopening, ?_⟩
    intro c hc
    apply Bool.eq_false_iff.mpr
    intro hword
    obtain ⟨shorter, rfl⟩ := List.getLast?_eq_some_iff.mp hc
    obtain ⟨rest', hmem'⟩ := (hopening.cons hword).exists_way
    have hle := hleft shorter (c :: back) _ rest' (by simp) hmem'
    simp only [List.length_append, List.length_singleton] at hle
    omega
  · have hdot : isWordChar '.' = false := by decide +kernel
    exact ⟨front ++ ['.'], tail, by simp, hopening, by simpa using hdot⟩

theorem search_openingPattern (window : List Char) :
    openingPattern.search window = openingName? window.reverse := by
  cases hsearch : openingPattern.search window with
  | some name => exact (openingName?_reverse_iff.mpr (endsOpening_of_search hsearch)).symm
  | none =>
    symm
    apply Option.eq_none_iff_forall_ne_some.mpr
    intro name hname
    obtain ⟨front, back, rfl, hopening, -⟩ := openingName?_reverse_iff.mp hname
    obtain ⟨rest, hmem⟩ := hopening.exists_way
    exact Matcher.search_ne_none hmem hsearch

/-- The name of the call opened before an offset is that of the opening in which the fifty
characters before it end. There is at most one, and without one there is no name. A search for the
pattern in these characters finds the same. -/
theorem callOpeningBefore_decides (text : List Char) (offset : Nat) :
    (∀ name, callOpeningBefore text offset = some name ↔
      EndsOpening (slice text (offset - 50) offset) name) ∧
    (∀ a b, EndsOpening (slice text (offset - 50) offset) a →
      EndsOpening (slice text (offset - 50) offset) b → a = b) ∧
    (callOpeningBefore text offset = none ↔
      ∀ name, ¬ EndsOpening (slice text (offset - 50) offset) name) ∧
    callOpeningBefore text offset = openingPattern.search (slice text (offset - 50) offset) := by
  have hwindow : callOpeningBefore text offset =
      openingName? (slice text (offset - 50) offset).reverse := by
    rw [slice_eq_drop_take]
    rfl
  have hname : ∀ name, callOpeningBefore text offset = some name ↔
      EndsOpening (slice text (offset - 50) offset) name := by
    intro name
    rw [hwindow, openingName?_reverse_iff]
  refine ⟨hname, fun _ _ => EndsOpening.unique, ?_, ?_⟩
  · rw [Option.eq_none_iff_forall_ne_some]
    exact forall_congr' fun name => not_congr (hname name)
  · rw [hwindow, search_openingPattern]

/-- Of a name far before the offset the window shows the end only. -/
theorem callOpeningBefore_decides_cut :
    let text := "s.scale (".toList ++ List.replicate 46 '\n'
    callOpeningBefore text 55 = some "le".toList ∧
      EndsOpening (slice text (55 - 50) 55) "le".toList ∧
      ∀ name, EndsOpening (slice text (55 - 50) 55) name → name = "le".toList := by
  intro text
  have hfound : callOpeningBefore text 55 = some "le".toList := by decide +kernel
  obtain ⟨hname, hunique, -⟩ := callOpeningBefore_decides text 55
  have hends := (hname _).mp hfound
  exact ⟨hfound, hends, fun name h => hunique name _ h hends⟩

end PatternServer.Document
