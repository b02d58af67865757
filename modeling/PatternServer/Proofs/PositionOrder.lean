import Mathlib.Data.List.Basic
import PatternServer.Document.Position

/-!
# The order of positions

Positions are ordered by line and then by column. In every encoding a later offset of a text has a
later position, because no character is without width and a line feed opens a line. Different
positions have different keys, so the key of an offset determines the offset.

The way back from positions to offsets is not treated here.
-/

namespace PatternServer.Document

set_option autoImplicit false

namespace Position

instance : LT Position where
  lt p q := p.line < q.line ∨ (p.line = q.line ∧ p.character < q.character)

instance : LE Position where
  le p q := p.line < q.line ∨ (p.line = q.line ∧ p.character ≤ q.character)

theorem lt_iff {p q : Position} :
    p < q ↔ p.line < q.line ∨ (p.line = q.line ∧ p.character < q.character) := Iff.rfl

theorem le_iff {p q : Position} :
    p ≤ q ↔ p.line < q.line ∨ (p.line = q.line ∧ p.character ≤ q.character) := Iff.rfl

theorem lt_trans {p q r : Position} (hpq : p < q) (hqr : q < r) : p < r := by
  rw [lt_iff] at *
  omega

theorem ne_of_lt {p q : Position} (h : p < q) : p ≠ q := by
  rintro rfl
  rw [lt_iff] at h
  omega

theorem le_refl (p : Position) : p ≤ p := le_iff.mpr (Or.inr ⟨rfl, Nat.le_refl _⟩)

theorem le_of_lt {p q : Position} (h : p < q) : p ≤ q := by
  rw [lt_iff] at h
  rw [le_iff]
  omega

/-- The digits of a number hold no colon. -/
theorem colon_notMem_toDigits (n : Nat) : ':' ∉ Nat.toDigits 10 n := by
  intro h
  have hd := Nat.isDigit_of_mem_toDigits (by decide) (by decide) h
  revert hd
  decide

theorem toDigits_injective {m n : Nat} (h : Nat.toDigits 10 m = Nat.toDigits 10 n) : m = n := by
  have hv := congrArg (fun ds => Nat.ofDigitChars 10 ds 0) h
  simpa using hv

theorem key_toList (p : Position) :
    p.key.toList = Nat.toDigits 10 p.line ++ ':' :: Nat.toDigits 10 p.character := by
  simp [key, Nat.toString_eq_repr]

theorem key_injective {p q : Position} (h : p.key = q.key) : p = q := by
  have hl := congrArg String.toList h
  rw [key_toList, key_toList, List.append_cons_inj_of_notMem (colon_notMem_toDigits _)
    (colon_notMem_toDigits _)] at hl
  obtain ⟨hline, -, hcharacter⟩ := hl
  cases p
  cases q
  simp only [mk.injEq]
  exact ⟨toDigits_injective hline, toDigits_injective hcharacter⟩

end Position

theorem lastLine_append_singleton (s : List Char) (c : Char) :
    lastLine (s ++ [c]) = if c = '\n' then [] else lastLine s ++ [c] := by
  by_cases hc : c = '\n' <;> simp [lastLine, hc]

/-- The position behind a character, from the position before it. -/
theorem positionAt_succ (e : Encoding) (text : List Char) {n : Nat} (hn : n < text.length) :
    positionAt e text (n + 1 : Nat) =
      if text[n] = '\n' then ⟨(positionAt e text n).line + 1, 0⟩
      else ⟨(positionAt e text n).line, (positionAt e text n).character + e.width text[n]⟩ := by
  have htake : text.take (n + 1) = text.take n ++ [text[n]] := by simp
  simp only [positionAt, Int.toNat_natCast, htake, lastLine_append_singleton, List.count_append]
  by_cases hc : text[n] = '\n' <;> simp [hc]

theorem positionAt_lt_succ (e : Encoding) (text : List Char) {n : Nat} (hn : n < text.length) :
    positionAt e text n < positionAt e text (n + 1 : Nat) := by
  rw [positionAt_succ e text hn]
  have hw := e.width_pos text[n]
  split
  · exact Or.inl (Nat.lt_succ_self _)
  · exact Or.inr ⟨rfl, by simp only; omega⟩

theorem positionAt_lt (e : Encoding) (text : List Char) {a b : Nat} (hab : a < b)
    (hb : b ≤ text.length) : positionAt e text a < positionAt e text b := by
  induction hab with
  | refl => exact positionAt_lt_succ e text hb
  | step _ ih =>
    have hlt := ih (Nat.le_of_succ_le hb)
    exact Position.lt_trans hlt (positionAt_lt_succ e text hb)

theorem positionAt_le (e : Encoding) (text : List Char) {a b : Nat} (hab : a ≤ b)
    (hb : b ≤ text.length) : positionAt e text a ≤ positionAt e text b := by
  rcases Nat.eq_or_lt_of_le hab with rfl | hlt
  · exact Position.le_refl _
  · exact Position.le_of_lt (positionAt_lt e text hlt hb)

/-- Two offsets with one key are one offset. -/
theorem offset_eq_of_key (e : Encoding) (text : List Char) {a b : Nat} (ha : a ≤ text.length)
    (hb : b ≤ text.length) (h : (positionAt e text a).key = (positionAt e text b).key) : a = b := by
  have hp := Position.key_injective h
  rcases Nat.lt_trichotomy a b with hlt | heq | hlt
  · exact absurd hp (Position.ne_of_lt (positionAt_lt e text hlt hb))
  · exact heq
  · exact absurd hp.symm (Position.ne_of_lt (positionAt_lt e text hlt ha))

end PatternServer.Document
