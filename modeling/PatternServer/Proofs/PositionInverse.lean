import Mathlib.Data.List.Induction
import PatternServer.Proofs.PositionOrder

/-!
# From positions back to offsets

The offset of the position of an offset is that offset again, in every encoding: the lines before it
are counted off at their line feeds, and the columns of a line are passed character by character.

Positions that belong to no offset, inside a wide character or beyond a line, are not treated here.
-/

namespace PatternServer.Document

set_option autoImplicit false

theorem Encoding.charsFor_units_append (e : Encoding) (s t : List Char) :
    e.charsFor (s ++ t) (e.units s) = s.length := by
  induction s with
  | nil => cases t <;> simp [charsFor]
  | cons c s ih =>
    have hw := e.width_pos c
    have hne : e.width c + e.units s ≠ 0 := by omega
    simp only [List.cons_append, units_cons, charsFor, if_neg hne, Nat.add_sub_cancel_left, ih,
      List.length_cons]
    omega

/-- A text is made of whole lines and a last one without a line feed. -/
theorem exists_append_lastLine (s : List Char) :
    ∃ whole, s = whole ++ lastLine s ∧ (whole = [] ∨ whole.getLast? = some '\n') ∧
      '\n' ∉ lastLine s := by
  induction s using List.reverseRecOn with
  | nil => exact ⟨[], rfl, Or.inl rfl, by simp [lastLine]⟩
  | append_singleton s c ih =>
    rw [lastLine_append_singleton]
    by_cases hc : c = '\n'
    · subst hc
      exact ⟨s ++ ['\n'], by simp, Or.inr (by simp), by simp⟩
    · obtain ⟨whole, hs, hend, hfree⟩ := ih
      refine ⟨whole, ?_, hend, ?_⟩
      · rw [if_neg hc, ← List.append_assoc, ← hs]
      · simp [hc, Ne.symm hc, hfree]

/-- Behind whole lines, the next line begins. -/
theorem lineStart?_append {whole : List Char} (rest : List Char)
    (hend : whole = [] ∨ whole.getLast? = some '\n') :
    lineStart? (whole ++ rest) (whole.count '\n') = some whole.length := by
  induction whole with
  | nil => cases rest <;> rfl
  | cons c whole ih =>
    rcases hend with hend | hend
    · cases hend
    · by_cases hc : c = '\n'
      · subst hc
        have hwhole : whole = [] ∨ whole.getLast? = some '\n' := by
          cases whole with
          | nil => exact Or.inl rfl
          | cons d whole => exact Or.inr (by simpa [List.getLast?_cons_cons] using hend)
        simp [lineStart?, ih hwhole]
      · have hne : whole ≠ [] := by
          rintro rfl
          simp [hc] at hend
        obtain ⟨d, whole, rfl⟩ := List.exists_cons_of_ne_nil hne
        rw [List.getLast?_cons_cons] at hend
        -- The last of these lines has ended, so that the count is not zero here.
        have hmem : '\n' ∈ d :: whole := List.mem_of_getLast? hend
        obtain ⟨n, hn⟩ := Nat.exists_eq_succ_of_ne_zero
          (Nat.pos_iff_ne_zero.mp (List.count_pos_iff.mpr hmem))
        have hrest := ih (Or.inr hend)
        rw [hn] at hrest
        rw [List.count_cons_of_ne hc, hn, List.cons_append, Nat.succ_eq_add_one, lineStart?,
          if_neg hc, hrest]
        rfl

theorem all_ne_feed {s : List Char} (h : '\n' ∉ s) : ∀ c ∈ s, decide (c ≠ '\n') = true := by
  intro c hc
  rw [decide_eq_true_iff]
  rintro rfl
  exact h hc

/-- The offset of the position of an offset is that offset. -/
theorem offset_positionAt (e : Encoding) (text : List Char) {a : Nat} (ha : a ≤ text.length) :
    (positionAt e text a).offset e text = a := by
  obtain ⟨whole, hbefore, hend, hfree⟩ := exists_append_lastLine (text.take a)
  generalize hline : lastLine (text.take a) = line at hbefore hfree
  have hlength : whole.length + line.length = a := by
    rw [← List.length_append, ← hbefore, List.length_take, Nat.min_eq_left ha]
  have hcount : (text.take a).count '\n' = whole.count '\n' := by
    rw [hbefore, List.count_append, List.count_eq_zero.mpr hfree, Nat.add_zero]
  have htext : text = whole ++ (line ++ text.drop a) := by
    rw [← List.append_assoc, ← hbefore, List.take_append_drop]
  have hstart : lineStart? text (whole.count '\n') = some whole.length := by
    conv_lhs => rw [htext]
    exact lineStart?_append _ hend
  have hcolumns : (text.drop whole.length).takeWhile (· ≠ '\n') =
      line ++ (text.drop a).takeWhile (· ≠ '\n') := by
    conv_lhs => rw [htext, List.drop_left]
    exact List.takeWhile_append_of_pos (all_ne_feed hfree)
  simp only [Position.offset, offsetAt, positionAt, Int.toNat_natCast, hline, hcount, hstart,
    hcolumns, Encoding.charsFor_units_append]
  rw [if_neg (by omega)]
  exact hlength

end PatternServer.Document
