import PatternServer.Diagnostics.Validate

/-!
# Remapping and the quoted form

A character of a body stands in the quoted form one place further on, and one more for every
backslash and double quote before it, since these are escaped there. Remapping takes off the one
place only. It finds a stretch of the body again exactly if nothing before its ends was escaped, the
end of the body apart, which is where remapping stops in any case.
-/

namespace PatternServer.Notation

set_option autoImplicit false

/-- Whether quoting puts a backslash before a character. -/
def isEscaped (c : Char) : Bool :=
  c == '\\' || c == '"'

@[simp] theorem escapeBody_append (s t : List Char) :
    escapeBody (s ++ t) = escapeBody s ++ escapeBody t := List.flatMap_append

theorem length_quoteChar (c : Char) :
    (quoteChar c).length = if isEscaped c then 2 else 1 := by
  by_cases hc : c = '\\' ∨ c = '"' <;> simp [quoteChar, isEscaped, hc]

theorem length_escapeBody (s : List Char) :
    (escapeBody s).length = s.length + s.countP isEscaped := by
  induction s with
  | nil => rfl
  | cons c s ih =>
    change (quoteChar c ++ escapeBody s).length = _
    rw [List.length_append, length_quoteChar, ih, List.countP_cons, List.length_cons]
    split <;> omega

/-- Where the form of what follows the first `k` characters of a body begins in its quoted form. -/
def imageOffset (body : List Char) (k : Nat) : Nat :=
  1 + (escapeBody (body.take k)).length

/-- The stretch of the quoted form that the characters of a body from `i` up to `j` have become. -/
def imageSpan (body : List Char) (i j : Nat) : Span :=
  ⟨imageOffset body i, imageOffset body j⟩

theorem imageOffset_eq {body : List Char} {k : Nat} (hk : k ≤ body.length) :
    imageOffset body k = 1 + k + (body.take k).countP isEscaped := by
  rw [imageOffset, length_escapeBody, List.length_take, Nat.min_eq_left hk, Nat.add_assoc]

theorem quoteBody_drop_imageOffset (body : List Char) (k : Nat) :
    (quoteBody body).drop (imageOffset body k) = escapeBody (body.drop k) ++ ['"'] := by
  have hsplit : escapeBody body = escapeBody (body.take k) ++ escapeBody (body.drop k) := by
    rw [← escapeBody_append, List.take_append_drop]
  rw [quoteBody, imageOffset, Nat.add_comm, List.cons_append, List.drop_succ_cons, hsplit,
    List.append_assoc, List.drop_left]

/-- The images of `i` and `j` lie as far apart as the form of what stands between them is long. -/
theorem imageOffset_add (body : List Char) {i j : Nat} (hij : i ≤ j) :
    imageOffset body j =
      imageOffset body i + (escapeBody ((body.drop i).take (j - i))).length := by
  have htake : body.take j = body.take i ++ (body.drop i).take (j - i) := by
    rw [← List.take_add, Nat.add_sub_cancel' hij]
  rw [imageOffset, imageOffset, htake, escapeBody_append, List.length_append, Nat.add_assoc]

theorem quoteBody_image (body : List Char) {i j : Nat} (hij : i ≤ j) :
    ((quoteBody body).drop (imageOffset body i)).take (imageOffset body j - imageOffset body i) =
      escapeBody ((body.drop i).take (j - i)) := by
  have hrest : escapeBody (body.drop i) =
      escapeBody ((body.drop i).take (j - i)) ++ escapeBody ((body.drop i).drop (j - i)) := by
    rw [← escapeBody_append, List.take_append_drop]
  rw [quoteBody_drop_imageOffset, imageOffset_add body hij, Nat.add_sub_cancel_left, hrest,
    List.append_assoc, List.take_left]

end PatternServer.Notation

namespace PatternServer.Diagnostics

set_option autoImplicit false

open PatternServer.Document PatternServer.Notation

/-- Every escape before an offset moves the place that its image is remapped to, up to the closing
quote. -/
theorem remapOffset_imageOffset (l : Literal) {k : Nat} (hk : k ≤ l.body.length) :
    remapOffset l (imageOffset l.body k) =
      min (l.start + k + (l.body.take k).countP isEscaped) l.stop := by
  rw [remapOffset, imageOffset_eq hk]
  congr 1
  omega

theorem remapOffset_imageOffset_eq_iff (l : Literal) {k : Nat} (hk : k ≤ l.body.length) :
    remapOffset l (imageOffset l.body k) = l.start + k ↔
      k = l.body.length ∨ ∀ c ∈ l.body.take k, isEscaped c = false := by
  have hplain : (∀ c ∈ l.body.take k, isEscaped c = false) ↔
      (l.body.take k).countP isEscaped = 0 := by
    simp [List.countP_eq_zero]
  rw [remapOffset_imageOffset l hk, hplain, Literal.stop]
  omega

theorem remapSpan_imageSpan (l : Literal) {i j : Nat} (hij : i ≤ j) :
    remapSpan l (imageSpan l.body i j) =
      (remapOffset l (imageOffset l.body i), remapOffset l (imageOffset l.body j)) := by
  have hle : remapOffset l (imageOffset l.body i) ≤ remapOffset l (imageOffset l.body j) := by
    have hadd := imageOffset_add l.body hij
    unfold remapOffset
    omega
  simp only [remapSpan, imageSpan, Nat.max_eq_right hle]

/-- The image of a stretch of a body is remapped to that stretch exactly if each of its ends has no
escaped character before it or is the end of the body. -/
theorem remapSpan_image_iff (l : Literal) {i j : Nat} (hij : i ≤ j) (hj : j ≤ l.body.length) :
    ((quoteBody l.body).drop (imageOffset l.body i)).take
        (imageOffset l.body j - imageOffset l.body i) = escapeBody ((l.body.drop i).take (j - i)) ∧
      (remapSpan l (imageSpan l.body i j) = (l.start + i, l.start + j) ↔
        (i = l.body.length ∨ ∀ c ∈ l.body.take i, isEscaped c = false) ∧
          (j = l.body.length ∨ ∀ c ∈ l.body.take j, isEscaped c = false)) := by
  refine ⟨quoteBody_image l.body hij, ?_⟩
  rw [remapSpan_imageSpan l hij, Prod.mk.injEq,
    remapOffset_imageOffset_eq_iff l (Nat.le_trans hij hj), remapOffset_imageOffset_eq_iff l hj]

/-- In the literal `'a"b'` the stretch behind the letter `a` is found again: it reaches the end. -/
theorem remapSpan_image_behind_letter :
    1 ≤ 3 ∧ 3 ≤ ['a', '"', 'b'].length ∧
      remapSpan ⟨['a', '"', 'b'], 1, '\''⟩ (imageSpan ['a', '"', 'b'] 1 3) = (2, 4) :=
  ⟨by decide, by decide,
    (remapSpan_image_iff ⟨['a', '"', 'b'], 1, '\''⟩ (by decide) (by decide)).2.mpr
      ⟨Or.inr (by simp [isEscaped]), Or.inl rfl⟩⟩

/-- Behind a double quote, as the letter in `'"x'` is, remapping misses a stretch. -/
theorem remapSpan_image_misses :
    ¬ ∀ (l : Literal) (i j : Nat), i ≤ j → j ≤ l.body.length →
      remapSpan l (imageSpan l.body i j) = (l.start + i, l.start + j) := by
  intro h
  have hx := h ⟨['"', 'x'], 1, '\''⟩ 1 2 (by decide) (by decide)
  revert hx
  decide

end PatternServer.Diagnostics
