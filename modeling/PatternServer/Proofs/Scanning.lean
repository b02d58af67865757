import Mathlib.Data.List.Pairwise
import PatternServer.Diagnostics.Atom
import PatternServer.Document.Call

/-!
# Where scanned things lie

The bounds of what the forward scans find: a literal lies inside the text with both its quotes,
each literal ends before the next one begins, the name of a call stands where the call says, and a
word of the fallback lies inside the body it was taken from.

Which literals and calls there are is not decided here.
-/

namespace PatternServer.Document

set_option autoImplicit false

/-- Of two members of a list in order, one ends before the other begins. -/
theorem apart_of_ordered {α : Type} {xs : List α} {start stop : α → Nat}
    (h : xs.Pairwise fun a b => stop a < start b) {a b : α} (ha : a ∈ xs) (hb : b ∈ xs)
    (hne : a ≠ b) : stop a < start b ∨ stop b < start a := by
  have hboth : xs.Pairwise fun a b => stop a < start b ∨ stop b < start a := h.imp Or.inl
  have : Std.Symm fun a b : α => stop a < start b ∨ stop b < start a := ⟨fun _ _ => Or.symm⟩
  exact hboth.forall ha hb hne

theorem bodyLength?_lt {q : Char} {s : List Char} {n : Nat} (h : bodyLength? q s = some n) :
    n < s.length := by
  fun_induction bodyLength? q s generalizing n with
  | case1 => simp at h
  | case2 => simp at h
  | case3 _ rest ih =>
    obtain ⟨m, hm, rfl⟩ := Option.map_eq_some_iff.mp h
    have hlt := ih hm
    simp only [List.length_cons]
    omega
  | case4 rest =>
    cases h
    simp
  | case5 c rest _ _ ih =>
    obtain ⟨m, hm, rfl⟩ := Option.map_eq_some_iff.mp h
    have hlt := ih hm
    simp only [List.length_cons]
    omega

/-- A literal found from `offset` on lies there with both its quotes. -/
theorem literalsFrom_bounds {offset : Nat} {s : List Char} {l : Literal}
    (h : l ∈ literalsFrom offset s) : offset < l.start ∧ l.stop < offset + s.length := by
  fun_induction literalsFrom offset s with
  | case1 => simp at h
  | case2 offset c rest _ n hn ih =>
    have hlt := bodyLength?_lt hn
    simp only [List.length_cons]
    rcases List.mem_cons.mp h with rfl | h
    · simp only [Literal.stop, List.length_take]
      omega
    · have hb := ih h
      simp only [List.length_drop] at hb
      omega
  | case3 offset c rest _ _ ih =>
    have hb := ih h
    simp only [List.length_cons]
    omega
  | case4 offset c rest _ ih =>
    have hb := ih h
    simp only [List.length_cons]
    omega

/-- Between the closing quote of a literal and the body of the next stands at least a quote. -/
theorem literalsFrom_apart (offset : Nat) (s : List Char) :
    (literalsFrom offset s).Pairwise fun l m => l.stop + 1 < m.start := by
  fun_induction literalsFrom offset s with
  | case1 => exact List.Pairwise.nil
  | case2 offset c rest _ n hn ih =>
    refine List.pairwise_cons.mpr ⟨?_, ih⟩
    intro m hm
    have hlt := bodyLength?_lt hn
    have hb := literalsFrom_bounds hm
    simp only [Literal.stop, List.length_take]
    omega
  | case3 _ _ _ _ _ ih => exact ih
  | case4 _ _ _ _ ih => exact ih

theorem literal_bounds {text : List Char} {l : Literal} (h : l ∈ literals text) :
    0 < l.start ∧ l.stop < text.length := by
  simpa using literalsFrom_bounds h

/-- Each literal ends, closing quote and all, before the body of the next one begins. -/
theorem literals_ordered (text : List Char) :
    (literals text).Pairwise fun l m => l.stop < m.start :=
  (literalsFrom_apart 0 text).imp (Nat.lt_of_succ_lt ·)

theorem Literal.start_le_stop (l : Literal) : l.start ≤ l.stop := Nat.le_add_right _ _

theorem calledName?_front {s name : List Char} (h : calledName? s = some name) : name <+: s := by
  unfold calledName? at h
  split at h
  · simp at h
  · split at h
    · split at h
      · cases h
        exact List.takeWhile_prefix _
      · simp at h
    · simp at h

theorem callSitesFrom_bounds {offset : Nat} {s : List Char} {site : CallSite}
    (h : site ∈ callSitesFrom offset s) :
    offset < site.start ∧ site.start ≤ offset + s.length ∧
      site.name <+: s.drop (site.start - offset) := by
  induction s generalizing offset with
  | nil => simp [callSitesFrom] at h
  | cons c rest ih =>
    -- Seen from one character further on, the site stands at the same place.
    have hlater : site ∈ callSitesFrom (offset + 1) rest →
        offset < site.start ∧ site.start ≤ offset + (c :: rest).length ∧
          site.name <+: (c :: rest).drop (site.start - offset) := by
      intro hs
      obtain ⟨hlt, hle, hname⟩ := ih hs
      have hsub : site.start - offset = site.start - (offset + 1) + 1 := by omega
      rw [hsub, List.drop_succ_cons, List.length_cons]
      exact ⟨by omega, by omega, hname⟩
    simp only [callSitesFrom] at h
    split at h
    · split at h
      · rename_i name hname
        rcases List.mem_cons.mp h with rfl | h
        · exact ⟨Nat.lt_succ_self _, by simp, by simpa using calledName?_front hname⟩
        · exact hlater h
      · exact hlater h
    · exact hlater h

theorem callSitesFrom_ordered (offset : Nat) (s : List Char) :
    (callSitesFrom offset s).Pairwise fun a b => a.start < b.start := by
  induction s generalizing offset with
  | nil => exact .nil
  | cons c rest ih =>
    simp only [callSitesFrom]
    split
    · split
      · refine List.pairwise_cons.mpr ⟨?_, ih (offset + 1)⟩
        intro site hsite
        exact (callSitesFrom_bounds hsite).1
      · exact ih (offset + 1)
    · exact ih (offset + 1)

/-- The name of a call stands in the text where the call says. -/
theorem callSite_name {text : List Char} {site : CallSite} (h : site ∈ callSites text) :
    site.name <+: text.drop site.start := (callSitesFrom_bounds h).2.2

theorem callSite_bound {text : List Char} {site : CallSite} (h : site ∈ callSites text) :
    site.start + site.name.length ≤ text.length := by
  have hle := (callSitesFrom_bounds h).2.1
  have hlen := (callSite_name h).length_le
  rw [List.length_drop] at hlen
  omega

end PatternServer.Document

namespace PatternServer.Diagnostics

set_option autoImplicit false

theorem firstOccurrence?_bound {part s : List Char} {i : Nat}
    (h : firstOccurrence? part s = some i) : i + part.length ≤ s.length := by
  induction s generalizing i with
  | nil =>
    simp only [firstOccurrence?] at h
    split at h
    · cases h
      simp_all
    · simp at h
  | cons c rest ih =>
    simp only [firstOccurrence?] at h
    split at h
    · rename_i hp
      cases h
      simpa using (List.isPrefixOf_iff_prefix.mp hp).length_le
    · obtain ⟨j, hj, rfl⟩ := Option.map_eq_some_iff.mp h
      have hle := ih hj
      simp only [List.length_cons]
      omega

theorem fallbackTokens_bound {body word : List Char} {index : Nat}
    (h : (index, word) ∈ fallbackTokens body) : index + word.length ≤ body.length := by
  obtain ⟨piece, _, hpiece⟩ := List.mem_filterMap.mp h
  split at hpiece
  · simp at hpiece
  · obtain ⟨i, hi, heq⟩ := Option.map_eq_some_iff.mp hpiece
    cases heq
    exact firstOccurrence?_bound hi

end PatternServer.Diagnostics
