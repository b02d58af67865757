import Mathlib.Order.Bounds.Defs
import PatternServer.Vocabulary.Similarity

/-!
# Edit scripts

The distance of two words is the number of edits in a shortest script from one to the other. The
table of distances is read in two steps. Its entry for two prefixes is given by a recursion on their
last characters, which is a recursion on the first characters of the reversed prefixes. This
recursion is then compared with alignments, in which the two words are written one below the other:
every script can be brought into that form without becoming longer.

Where two characters are equal, the table takes over the entry before both of them and does not
look at the other two neighbours. Nothing is lost: by `headDistance_le_cons` each of them is smaller
by one at most, and an edit would have to be added.
-/

namespace PatternServer.Vocabulary

set_option autoImplicit false

variable {a b c : List Char} {n : Nat}

/-- One character is inserted, deleted or replaced somewhere in a word. -/
inductive Edit : List Char → List Char → Prop where
  | insert (l r : List Char) (y : Char) : Edit (l ++ r) (l ++ y :: r)
  | delete (l r : List Char) (x : Char) : Edit (l ++ x :: r) (l ++ r)
  | substitute (l r : List Char) (x y : Char) : Edit (l ++ x :: r) (l ++ y :: r)

/-- A script of `n` edits that turns one word into another. -/
inductive Script : Nat → List Char → List Char → Prop where
  | nil (a : List Char) : Script 0 a a
  | cons {n : Nat} {a b c : List Char} (edit : Edit a b) (rest : Script n b c) :
      Script (n + 1) a c

namespace Edit

theorem reverse (h : Edit a b) : Edit a.reverse b.reverse := by
  cases h with
  | insert l r y => simpa using insert r.reverse l.reverse y
  | delete l r x => simpa using delete r.reverse l.reverse x
  | substitute l r x y => simpa using substitute r.reverse l.reverse x y

theorem behind (x : Char) (h : Edit a b) : Edit (x :: a) (x :: b) := by
  cases h with
  | insert l r y => exact .insert (x :: l) r y
  | delete l r z => exact .delete (x :: l) r z
  | substitute l r z y => exact .substitute (x :: l) r z y

/-- An edit concerns the first character or leaves it as it is. -/
theorem cases_cons {x : Char} (h : Edit a (x :: b)) :
    a = b ∨ (∃ z, a = z :: x :: b) ∨ (∃ z, a = z :: b) ∨ ∃ a', a = x :: a' ∧ Edit a' b := by
  generalize hw : x :: b = w at h
  cases h with
  | insert l r y =>
    cases l with
    | nil =>
      cases hw
      exact Or.inl rfl
    | cons z l =>
      cases hw
      exact Or.inr (Or.inr (Or.inr ⟨_, rfl, .insert l r y⟩))
  | delete l r z =>
    cases l with
    | nil =>
      cases hw
      exact Or.inr (Or.inl ⟨z, rfl⟩)
    | cons z' l =>
      cases hw
      exact Or.inr (Or.inr (Or.inr ⟨_, rfl, .delete l r z⟩))
  | substitute l r z y =>
    cases l with
    | nil =>
      cases hw
      exact Or.inr (Or.inr (Or.inl ⟨z, rfl⟩))
    | cons z' l =>
      cases hw
      exact Or.inr (Or.inr (Or.inr ⟨_, rfl, .substitute l r z y⟩))

end Edit

namespace Script

theorem append {m n : Nat} (h : Script m a b) (h' : Script n b c) : Script (m + n) a c := by
  induction h with
  | nil => rwa [Nat.zero_add]
  | cons edit _ ih =>
    rw [Nat.add_right_comm]
    exact .cons edit (ih h')

theorem reverse (h : Script n a b) : Script n a.reverse b.reverse := by
  induction h with
  | nil a => exact .nil a.reverse
  | cons edit _ ih => exact .cons edit.reverse ih

theorem reverse_iff : Script n a.reverse b.reverse ↔ Script n a b :=
  ⟨fun h => by simpa using h.reverse, reverse⟩

theorem behind (x : Char) (h : Script n a b) : Script n (x :: a) (x :: b) := by
  induction h with
  | nil a => exact .nil (x :: a)
  | cons edit _ ih => exact .cons (edit.behind x) ih

theorem zero_iff : Script 0 a b ↔ a = b := by
  constructor
  · rintro ⟨⟩
    rfl
  · rintro rfl
    exact .nil a

end Script

/-! Alignments. -/

/-- Two words one below the other, with `n` places where not the same character stands in both: a
character is replaced there, or stands in one of the words only. -/
inductive Aligned : Nat → List Char → List Char → Prop where
  | nil : Aligned 0 [] []
  | keep {n : Nat} {a b : List Char} (x : Char) (h : Aligned n a b) :
      Aligned n (x :: a) (x :: b)
  | substitute {n : Nat} {a b : List Char} (x y : Char) (h : Aligned n a b) :
      Aligned (n + 1) (x :: a) (y :: b)
  | insert {n : Nat} {a b : List Char} (y : Char) (h : Aligned n a b) : Aligned (n + 1) a (y :: b)
  | delete {n : Nat} {a b : List Char} (x : Char) (h : Aligned n a b) : Aligned (n + 1) (x :: a) b

namespace Aligned

theorem refl (a : List Char) : Aligned 0 a a := by
  induction a with
  | nil => exact .nil
  | cons x a ih => exact .keep x ih

theorem nil_left (b : List Char) : Aligned b.length [] b := by
  induction b with
  | nil => exact .nil
  | cons y b ih => exact .insert y ih

theorem nil_right (a : List Char) : Aligned a.length a [] := by
  induction a with
  | nil => exact .nil
  | cons x a ih => exact .delete x ih

/-- An alignment is a script that works from left to right. -/
theorem script (h : Aligned n a b) : Script n a b := by
  induction h with
  | nil => exact .nil []
  | keep x _ ih => exact ih.behind x
  | @substitute _ a _ x y _ ih => exact .cons (.substitute [] a x y) (ih.behind y)
  | @insert _ a _ y _ ih => exact .cons (.insert [] a y) (ih.behind y)
  | @delete _ a _ x _ ih => exact .cons (.delete [] a x) ih

/-- An edit before an alignment becomes part of it, at one more place. -/
theorem after_edit (hedit : Edit a b) (h : Aligned n b c) : ∃ k ≤ n + 1, Aligned k a c := by
  induction h generalizing a with
  | nil =>
    generalize hw : [] = w at hedit
    cases hedit with
    | insert l r y => simp at hw
    | delete l r x =>
      obtain ⟨rfl, rfl⟩ := List.append_eq_nil_iff.mp hw.symm
      exact ⟨1, Nat.le_refl 1, .delete x .nil⟩
    | substitute l r x y => simp at hw
  | keep x h ih =>
    obtain rfl | ⟨z, rfl⟩ | ⟨z, rfl⟩ | ⟨a, rfl, hbehind⟩ := hedit.cases_cons
    · exact ⟨_, Nat.le_refl _, .insert x h⟩
    · exact ⟨_, Nat.le_refl _, .delete z (.keep x h)⟩
    · exact ⟨_, Nat.le_refl _, .substitute z x h⟩
    · obtain ⟨k, hk, h⟩ := ih hbehind
      exact ⟨k, hk, .keep x h⟩
  | substitute x y h ih =>
    obtain rfl | ⟨z, rfl⟩ | ⟨z, rfl⟩ | ⟨a, rfl, hbehind⟩ := hedit.cases_cons
    · exact ⟨_, Nat.le_succ _, .insert y h⟩
    · exact ⟨_, Nat.le_refl _, .delete z (.substitute x y h)⟩
    · exact ⟨_, Nat.le_succ _, .substitute z y h⟩
    · obtain ⟨k, hk, h⟩ := ih hbehind
      exact ⟨k + 1, Nat.succ_le_succ hk, .substitute x y h⟩
  | insert y _ ih =>
    obtain ⟨k, hk, h⟩ := ih hedit
    exact ⟨k + 1, Nat.succ_le_succ hk, .insert y h⟩
  | delete x h ih =>
    obtain rfl | ⟨z, rfl⟩ | ⟨z, rfl⟩ | ⟨a, rfl, hbehind⟩ := hedit.cases_cons
    · exact ⟨_, Nat.le_add_right _ 2, h⟩
    · exact ⟨_, Nat.le_refl _, .delete z (.delete x h)⟩
    · exact ⟨_, Nat.le_succ _, .delete z h⟩
    · obtain ⟨k, hk, h⟩ := ih hbehind
      exact ⟨k + 1, Nat.succ_le_succ hk, .delete x h⟩

end Aligned

theorem Script.exists_aligned (h : Script n a b) : ∃ k ≤ n, Aligned k a b := by
  induction h with
  | nil a => exact ⟨0, Nat.le_refl 0, .refl a⟩
  | cons edit _ ih =>
    obtain ⟨k, hk, h⟩ := ih
    obtain ⟨k', hk', h⟩ := h.after_edit edit
    exact ⟨k', Nat.le_trans hk' (Nat.succ_le_succ hk), h⟩

/-! The distance by a recursion on the first characters. -/

/-- The distance of two words by way of their tails. -/
def headDistance : List Char → List Char → Nat
  | [], b => b.length
  | _ :: a, [] => a.length + 1
  | x :: a, y :: b =>
    if x = y then headDistance a b
    else min (min (headDistance a b) (headDistance (x :: a) b)) (headDistance a (y :: b)) + 1

@[simp] theorem headDistance_nil_left (b : List Char) : headDistance [] b = b.length := by
  rw [headDistance]

@[simp] theorem headDistance_nil_right (a : List Char) : headDistance a [] = a.length := by
  cases a <;> simp [headDistance]

@[simp] theorem headDistance_cons_self (x : Char) (a b : List Char) :
    headDistance (x :: a) (x :: b) = headDistance a b := by
  rw [headDistance, if_pos rfl]

theorem headDistance_cons_of_ne {x y : Char} (h : x ≠ y) (a b : List Char) :
    headDistance (x :: a) (y :: b) =
      min (min (headDistance a b) (headDistance (x :: a) b)) (headDistance a (y :: b)) + 1 := by
  rw [headDistance, if_neg h]

theorem headDistance_comm (a b : List Char) : headDistance a b = headDistance b a := by
  fun_induction headDistance a b with
  | case1 b => simp
  | case2 x a => simp
  | case3 a y b ih => rw [headDistance_cons_self, ih]
  | case4 x a y b hne ih₁ ih₂ ih₃ =>
    rw [headDistance_cons_of_ne (Ne.symm hne), ih₁, ih₂, ih₃]
    omega

/-- A character more in one word, where it is known that a character more in the other one adds at
most one. -/
theorem headDistance_le_cons (h : ∀ y b, headDistance a (y :: b) ≤ headDistance a b + 1) (x : Char)
    (b : List Char) : headDistance a b ≤ headDistance (x :: a) b + 1 := by
  induction b with
  | nil =>
    simp only [headDistance_nil_right, List.length_cons]
    omega
  | cons y b ih =>
    have hmore := h y b
    by_cases hxy : x = y
    · subst hxy
      rwa [headDistance_cons_self]
    · rw [headDistance_cons_of_ne hxy]
      omega

/-- One character more changes the distance by one at most. -/
theorem headDistance_cons_le (a : List Char) (y : Char) (b : List Char) :
    headDistance a (y :: b) ≤ headDistance a b + 1 := by
  induction a generalizing y b with
  | nil => simp
  | cons x a ih =>
    by_cases hxy : x = y
    · -- The entry before both characters is not beaten by way of the shorter second word.
      subst hxy
      rw [headDistance_cons_self]
      exact headDistance_le_cons ih x b
    · rw [headDistance_cons_of_ne hxy]
      omega

theorem headDistance_le_of_aligned (h : Aligned n a b) : headDistance a b ≤ n := by
  induction h with
  | nil => simp
  | keep x _ ih => rwa [headDistance_cons_self]
  | @substitute n a b x y _ ih =>
    by_cases hxy : x = y
    · subst hxy
      rw [headDistance_cons_self]
      omega
    · rw [headDistance_cons_of_ne hxy]
      omega
  | @insert n a b y _ ih =>
    have hmore := headDistance_cons_le a y b
    omega
  | @delete n a b x _ ih =>
    have hmore := headDistance_cons_le b x a
    rw [headDistance_comm b, headDistance_comm b] at hmore
    omega

theorem aligned_headDistance (a b : List Char) : Aligned (headDistance a b) a b := by
  fun_induction headDistance a b with
  | case1 b => exact .nil_left b
  | case2 x a => exact .nil_right (x :: a)
  | case3 a y b ih => exact .keep y ih
  | case4 x a y b _ ih₁ ih₂ ih₃ =>
    rcases Nat.le_total (min (headDistance a b) (headDistance (x :: a) b))
      (headDistance a (y :: b)) with h | h
    · rw [Nat.min_eq_left h]
      rcases Nat.le_total (headDistance a b) (headDistance (x :: a) b) with h | h
      · rw [Nat.min_eq_left h]
        exact .substitute x y ih₁
      · rw [Nat.min_eq_right h]
        exact .insert y ih₂
    · rw [Nat.min_eq_right h]
      exact .delete x ih₃

theorem headDistance_isLeast (a b : List Char) :
    IsLeast {n | Script n a b} (headDistance a b) := by
  refine ⟨(aligned_headDistance a b).script, ?_⟩
  intro n hn
  obtain ⟨k, hk, haligned⟩ := Script.exists_aligned hn
  exact Nat.le_trans (headDistance_le_of_aligned haligned) hk

/-! The table. Prefixes are reversed, as the table goes on at their ends. -/

/-- The entries of a row behind the prefix `pre`: the distances of `a` to the longer prefixes. -/
def entriesFrom (a : List Char) : (pre b : List Char) → List Nat
  | _, [] => []
  | pre, y :: b => headDistance a (y :: pre) :: entriesFrom a (y :: pre) b

def rowOf (a b : List Char) : List Nat :=
  headDistance a [] :: entriesFrom a [] b

theorem nextRow_eq (x : Char) (a pre b : List Char) :
    nextRow x b (headDistance a pre) (headDistance (x :: a) pre) (entriesFrom a pre b) =
      entriesFrom (x :: a) pre b := by
  induction b generalizing pre with
  | nil => rfl
  | cons y b ih =>
    have hentry : headDistance (x :: a) (y :: pre) =
        if x = y then headDistance a pre
        else min (min (headDistance a pre) (headDistance (x :: a) pre))
          (headDistance a (y :: pre)) + 1 := by
      rw [headDistance]
    simp only [entriesFrom, nextRow, ← hentry, ih]

theorem distanceRows_eq (a pre b : List Char) :
    distanceRows b a (rowOf pre b) = rowOf (a.reverse ++ pre) b := by
  induction a generalizing pre with
  | nil => rfl
  | cons x a ih =>
    have hnext := nextRow_eq x pre [] b
    simp only [headDistance_nil_right, List.length_cons] at hnext
    have hrow : (pre.length + 1) :: nextRow x b pre.length (pre.length + 1) (entriesFrom pre [] b) =
        rowOf (x :: pre) b := by
      rw [hnext, rowOf, headDistance_nil_right, List.length_cons]
    rw [rowOf, headDistance_nil_right, distanceRows, hrow, ih, List.reverse_cons,
      List.append_assoc, List.singleton_append]

theorem entriesFrom_nil (pre b : List Char) :
    entriesFrom [] pre b = List.range' (pre.length + 1) b.length := by
  induction b generalizing pre with
  | nil => rfl
  | cons y b ih =>
    rw [entriesFrom, ih, headDistance_nil_left, List.length_cons, List.length_cons,
      List.range'_succ]

theorem rowOf_nil (b : List Char) : rowOf [] b = List.range (b.length + 1) := by
  rw [rowOf, entriesFrom_nil, headDistance_nil_left, List.range_eq_range', List.range'_succ]
  rfl

theorem getLastD_entries (a pre b : List Char) :
    (headDistance a pre :: entriesFrom a pre b).getLastD 0 = headDistance a (b.reverse ++ pre) := by
  induction b generalizing pre with
  | nil => rfl
  | cons y b ih =>
    rw [List.reverse_cons, List.append_assoc, List.singleton_append, ← ih]
    rfl

/-- The last entry of the last row stands for both words as a whole. -/
theorem editDistance_eq (a b : List Char) :
    editDistance a b = headDistance a.reverse b.reverse := by
  rw [editDistance, ← rowOf_nil, distanceRows_eq, rowOf, getLastD_entries, List.append_nil,
    List.append_nil]

theorem isLeast_editDistance (a b : List Char) :
    IsLeast {n | Script n a b} (editDistance a b) := by
  have hleast := headDistance_isLeast a.reverse b.reverse
  simp only [Script.reverse_iff] at hleast
  rwa [editDistance_eq]

theorem editDistance_comm (a b : List Char) : editDistance a b = editDistance b a := by
  rw [editDistance_eq, editDistance_eq, headDistance_comm]

theorem editDistance_eq_zero_iff : editDistance a b = 0 ↔ a = b := by
  obtain ⟨hscript, hleast⟩ := isLeast_editDistance a b
  rw [← Script.zero_iff]
  constructor
  · intro h
    rwa [h] at hscript
  · intro h
    exact Nat.le_zero.mp (hleast h)

/-- The distance of two words is the least number of edits from one to the other. It is a metric:
zero for equal words only, the same in both directions, and no longer than by way of a third
word. -/
theorem editDistance_least_metric (a b : List Char) :
    IsLeast {n | Script n a b} (editDistance a b) ∧ (editDistance a b = 0 ↔ a = b) ∧
      editDistance a b = editDistance b a ∧
      ∀ c, editDistance a c ≤ editDistance a b + editDistance b c := by
  refine ⟨isLeast_editDistance a b, editDistance_eq_zero_iff, editDistance_comm a b, ?_⟩
  intro c
  apply (isLeast_editDistance a c).2
  exact (isLeast_editDistance a b).1.append (isLeast_editDistance b c).1

end PatternServer.Vocabulary
