import Mathlib.Algebra.Ring.Parity
import Mathlib.Data.List.DropRight
import PatternServer.Proofs.Scanning

/-!
# The two scans for literals

The scan around an offset and the scan from the front look at different things. The one around an
offset starts at the nearest quote before it, whether that quote opens a literal or closes one, and
takes any quote behind a backslash for escaped. The one from the front pairs the quotes in order
and lets a backslash take exactly one character with it.

What the first finds is therefore a literal of the second under two conditions: the quote it starts
from is not taken by an earlier literal, and no quote inside stands behind backslashes that escape
only each other.
-/

namespace PatternServer.Document

set_option autoImplicit false

/-- The character at an offset belongs to the body of the literal, or is its closing quote. -/
def Literal.Takes (l : Literal) (i : Nat) : Prop :=
  l.start ≤ i ∧ i ≤ l.stop

/-- How many backslashes a text ends in. -/
def slashRun (s : List Char) : Nat :=
  (s.rtakeWhile (· == '\\')).length

@[simp] theorem slashRun_nil : slashRun [] = 0 := rfl

theorem slashRun_concat (s : List Char) (c : Char) :
    slashRun (s ++ [c]) = if c = '\\' then slashRun s + 1 else 0 := by
  simp only [slashRun, List.rtakeWhile_concat, beq_iff_eq]
  split <;> simp

theorem slashRun_eq_zero {s : List Char} (h : s.getLast? ≠ some '\\') : slashRun s = 0 := by
  induction s using List.reverseRecOn with
  | nil => rfl
  | append_singleton s c _ =>
    rw [List.getLast?_concat] at h
    rw [slashRun_concat, if_neg fun hc => h (congrArg some hc)]

theorem slashRun_cons_of_ne {c : Char} (hc : c ≠ '\\') (s : List Char) :
    slashRun (c :: s) = slashRun s := by
  induction s using List.reverseRecOn with
  | nil => exact slashRun_eq_zero (by simpa using hc)
  | append_singleton s d ih => rw [← List.cons_append, slashRun_concat, slashRun_concat, ih]

/-- A backslash and the character it takes leave the parity of the run behind them as it is, also
where the run reaches back to them. -/
theorem odd_slashRun_escape (d : Char) (s : List Char) :
    Odd (slashRun ('\\' :: d :: s)) ↔ Odd (slashRun s) := by
  induction s using List.reverseRecOn with
  | nil =>
    rw [show ['\\', d] = (([] ++ ['\\']) ++ [d] : List Char) from rfl, slashRun_concat,
      slashRun_concat]
    split <;> simp
  | append_singleton s c ih =>
    rw [show '\\' :: d :: (s ++ [c]) = ('\\' :: d :: s) ++ [c] from rfl, slashRun_concat,
      slashRun_concat]
    split
    · rw [Nat.odd_add_one, Nat.odd_add_one, ih]
    · exact Iff.rfl

/-- Every `q` in the text stands behind an odd number of backslashes. -/
def AllEscaped (q : Char) (s : List Char) : Prop :=
  ∀ front back, s = front ++ q :: back → Odd (slashRun front)

theorem allEscaped_nil (q : Char) : AllEscaped q [] := by
  intro front back h
  simp at h

theorem not_allEscaped_cons (q : Char) (s : List Char) : ¬ AllEscaped q (q :: s) := by
  intro h
  simpa using h [] s rfl

theorem allEscaped_cons_iff {q c : Char} (hc : c ≠ '\\') (hq : c ≠ q) (s : List Char) :
    AllEscaped q (c :: s) ↔ AllEscaped q s := by
  constructor
  · intro h front back hs
    rw [← slashRun_cons_of_ne hc]
    exact h (c :: front) back (by rw [hs, List.cons_append])
  · intro h front back hs
    rcases List.cons_eq_append_iff.mp hs with ⟨rfl, hcons⟩ | ⟨front, rfl, htail⟩
    · exact absurd (List.cons.inj hcons).1.symm hq
    · rw [slashRun_cons_of_ne hc]
      exact h front back htail

theorem allEscaped_escape_iff {q : Char} (hq : q ≠ '\\') (d : Char) (s : List Char) :
    AllEscaped q ('\\' :: d :: s) ↔ AllEscaped q s := by
  constructor
  · intro h front back hs
    rw [← odd_slashRun_escape d]
    exact h ('\\' :: d :: front) back (by rw [hs, List.cons_append, List.cons_append])
  · intro h front back hs
    rcases List.cons_eq_append_iff.mp hs with ⟨rfl, hcons⟩ | ⟨front, rfl, htail⟩
    · exact absurd (List.cons.inj hcons).1 hq
    · rcases List.cons_eq_append_iff.mp htail with ⟨rfl, _⟩ | ⟨front, rfl, _⟩
      · decide
      · rw [odd_slashRun_escape]
        exact h front back (List.cons.inj (List.cons.inj hs).2).2

theorem bodyLength?_quote {q : Char} (hq : q ≠ '\\') (rest : List Char) :
    bodyLength? q (q :: rest) = some 0 := by
  rw [bodyLength?.eq_def]
  simp only [if_neg hq, if_true]

theorem bodyLength?_cons {q c : Char} (hc : c ≠ '\\') (hne : c ≠ q) (rest : List Char) :
    bodyLength? q (c :: rest) = (bodyLength? q rest).map (· + 1) := by
  rw [bodyLength?.eq_def]
  simp only [if_neg hc, if_neg hne]

theorem bodyLength?_escape (q d : Char) (rest : List Char) :
    bodyLength? q ('\\' :: d :: rest) = (bodyLength? q rest).map (· + 2) := by
  rw [bodyLength?.eq_def]
  simp only [if_true]

/-- A body is read up to a quote just when each quote inside is escaped and that one is not. -/
theorem bodyLength?_append_iff {q : Char} (hq : q ≠ '\\') (body rest : List Char) :
    bodyLength? q (body ++ q :: rest) = some body.length ↔
      AllEscaped q body ∧ ¬ Odd (slashRun body) := by
  fun_induction bodyLength? q body with
  | case1 => simp [bodyLength?_quote hq, allEscaped_nil]
  | case2 =>
    have hodd : Odd (slashRun ['\\']) := by decide
    rw [List.singleton_append, bodyLength?_escape]
    simp [hodd]
  | case3 d s ih =>
    rw [allEscaped_escape_iff hq, odd_slashRun_escape, ← ih, List.cons_append, List.cons_append,
      bodyLength?_escape]
    simp
  | case4 s =>
    rw [List.cons_append, bodyLength?_quote hq]
    simp [not_allEscaped_cons]
  | case5 c s hc hne ih =>
    rw [allEscaped_cons_iff hc hne, slashRun_cons_of_ne hc, ← ih, List.cons_append,
      bodyLength?_cons hc hne]
    simp

/-- From a place that no literal takes on, the scan finds what it would find starting there. -/
theorem literalsFrom_drop_suffix {offset n : Nat} {s : List Char}
    (h : ∀ l ∈ literalsFrom offset s, ¬ l.Takes (offset + n)) :
    literalsFrom (offset + n) (s.drop n) <:+ literalsFrom offset s := by
  fun_induction literalsFrom offset s generalizing n with
  | case1 => simp [literalsFrom]
  | case2 offset c rest hc k hk ih =>
    cases n with
    | zero => simp [literalsFrom, hc, hk]
    | succ n =>
      have hfree := h _ List.mem_cons_self
      have hlt := bodyLength?_lt hk
      simp only [Literal.Takes, Literal.stop, List.length_take] at hfree
      -- The place lies behind the literal that begins here, closing quote and all.
      obtain ⟨m, rfl⟩ : ∃ m, n = k + 1 + m := ⟨n - (k + 1), by omega⟩
      have hoff : offset + (k + 1 + m + 1) = offset + k + 2 + m := by omega
      rw [hoff, List.drop_succ_cons, ← List.drop_drop]
      refine (ih ?_).trans (List.suffix_cons _ _)
      intro l hl
      rw [← hoff]
      exact h l (List.mem_cons_of_mem _ hl)
  | case3 offset c rest hc hk ih =>
    cases n with
    | zero => simp [literalsFrom, hc, hk]
    | succ n =>
      rw [show offset + (n + 1) = offset + 1 + n by omega] at h ⊢
      exact ih h
  | case4 offset c rest hc ih =>
    cases n with
    | zero => simp [literalsFrom, hc]
    | succ n =>
      rw [show offset + (n + 1) = offset + 1 + n by omega] at h ⊢
      exact ih h

theorem literalsFrom_bodyLength? {offset : Nat} {s : List Char} {l : Literal}
    (h : l ∈ literalsFrom offset s) :
    bodyLength? l.quote (s.drop (l.start - offset)) = some l.body.length := by
  fun_induction literalsFrom offset s with
  | case1 => simp at h
  | case2 offset c rest _ n hn ih =>
    have hlt := bodyLength?_lt hn
    rcases List.mem_cons.mp h with rfl | h
    · have hlen : min n rest.length = n := by omega
      simpa [hlen] using hn
    · have hb := literalsFrom_bounds h
      have hsub : l.start - offset = n + 1 + (l.start - (offset + n + 2)) + 1 := by omega
      rw [hsub, List.drop_succ_cons, ← List.drop_drop]
      exact ih h
  | case3 offset c rest _ _ ih =>
    have hb := literalsFrom_bounds h
    rw [show l.start - offset = l.start - (offset + 1) + 1 by omega, List.drop_succ_cons]
    exact ih h
  | case4 offset c rest _ ih =>
    have hb := literalsFrom_bounds h
    rw [show l.start - offset = l.start - (offset + 1) + 1 by omega, List.drop_succ_cons]
    exact ih h

theorem isQuote_ne_backslash {q : Char} (h : isQuote q = true) : q ≠ '\\' := by
  rintro rfl
  simp [isQuote] at h

/-- The quote that opens a literal is taken by none. -/
theorem not_takes_of_mem_literals {text : List Char} {l m : Literal} (hl : l ∈ literals text)
    (hm : m ∈ literals text) : ¬ m.Takes (l.start - 1) := by
  intro htakes
  obtain ⟨hle, hge⟩ := htakes
  have hpos := (literal_bounds hl).1
  by_cases hml : m = l
  · subst hml
    omega
  · have hsides := apart_of_ordered (literalsFrom_apart 0 text) hm hl hml
    have := l.start_le_stop
    omega

/-- A quoted stretch of a text is one of its literals just when no literal takes the first quote and
the escapes inside leave the last quote, and no other, to close it. -/
theorem mem_literals_iff {text front rest : List Char} {l : Literal}
    (htext : text = front ++ l.quote :: (l.body ++ l.quote :: rest))
    (hstart : l.start = front.length + 1) (hq : isQuote l.quote = true) :
    l ∈ literals text ↔
      (∀ m ∈ literals text, ¬ m.Takes (l.start - 1)) ∧
        AllEscaped l.quote l.body ∧ ¬ Odd (slashRun l.body) := by
  have hdrop : text.drop l.start = l.body ++ l.quote :: rest := by
    rw [htext, hstart, ← List.drop_drop, List.drop_left]
    rfl
  rw [← bodyLength?_append_iff (isQuote_ne_backslash hq) l.body rest]
  constructor
  · intro hl
    refine ⟨fun m hm => not_takes_of_mem_literals hl hm, ?_⟩
    have hbody := literalsFrom_bodyLength? hl
    rwa [Nat.sub_zero, hdrop] at hbody
  · rintro ⟨hfree, hbody⟩
    have hsuffix : literalsFrom (0 + front.length) (text.drop front.length) <:+ literals text := by
      apply literalsFrom_drop_suffix
      intro m hm
      rw [Nat.zero_add, show front.length = l.start - 1 by omega]
      exact hfree m hm
    apply hsuffix.subset
    rw [htext, List.drop_left, literalsFrom, if_pos hq, hbody]
    simp [← hstart]

theorem openingQuote?_split {before : List Char} {n : Nat} {q : Char}
    (h : openingQuote? before = some (n, q)) :
    isQuote q = true ∧ ∃ inner older, before = inner ++ q :: older ∧ inner.length = n := by
  induction before generalizing n with
  | nil => simp [openingQuote?] at h
  | cons c before ih =>
    -- Where the search goes on, one more character stands before the offset.
    have hon : (openingQuote? before).map (fun r => (r.1 + 1, r.2)) = some (n, q) →
        isQuote q = true ∧ ∃ inner older, c :: before = inner ++ q :: older ∧ inner.length = n := by
      intro hmap
      obtain ⟨⟨m, p⟩, hm, heq⟩ := Option.map_eq_some_iff.mp hmap
      cases heq
      obtain ⟨hq, inner, older, rfl, rfl⟩ := ih hm
      exact ⟨hq, c :: inner, older, rfl, rfl⟩
    simp only [openingQuote?] at h
    split at h
    · split at h
      · exact hon h
      · rename_i hc _
        cases h
        exact ⟨hc, [], before, rfl, rfl⟩
    · split at h
      · simp at h
      · exact hon h

theorem closingQuote?_split {q : Char} {previous : Option Char} {s : List Char} {n : Nat}
    (h : closingQuote? q previous s = some n) :
    ∃ inner rest, s = inner ++ q :: rest ∧ inner.length = n ∧
      inner.getLast?.or previous ≠ some '\\' := by
  induction s generalizing previous n with
  | nil => simp [closingQuote?] at h
  | cons c s ih =>
    have hon : (closingQuote? q (some c) s).map (· + 1) = some n →
        ∃ inner rest, c :: s = inner ++ q :: rest ∧ inner.length = n ∧
          inner.getLast?.or previous ≠ some '\\' := by
      intro hmap
      obtain ⟨m, hm, rfl⟩ := Option.map_eq_some_iff.mp hmap
      obtain ⟨inner, rest, rfl, rfl, hlast⟩ := ih hm
      refine ⟨c :: inner, rest, rfl, rfl, ?_⟩
      rw [List.getLast?_cons, Option.some_or]
      rwa [Option.or_some] at hlast
    simp only [closingQuote?] at h
    split at h
    · split at h
      · exact hon h
      · rename_i hc hprevious
        cases h
        exact ⟨[], s, by rw [hc, List.nil_append], rfl, hprevious⟩
    · split at h
      · simp at h
      · exact hon h

/-- What the scan around an offset finds is a quoted stretch around it that does not end in a
backslash. -/
theorem enclosingLiteral_split {text : List Char} {offset : Nat} {l : Literal}
    (h : enclosingLiteral text offset = .ok (some l)) :
    isQuote l.quote = true ∧ l.body.getLast? ≠ some '\\' ∧
      ∃ front rest, text = front ++ l.quote :: (l.body ++ l.quote :: rest) ∧
        l.start = front.length + 1 := by
  unfold enclosingLiteral at h
  split at h
  · simp at h
  · rename_i hle
    obtain ⟨⟨n, q⟩, hopen, h⟩ := Option.bind_eq_some_iff.mp (Except.ok.inj h)
    obtain ⟨ahead, hclose, hl⟩ := Option.map_eq_some_iff.mp h
    obtain ⟨hq, inner, older, hbefore, hn⟩ := openingQuote?_split hopen
    obtain ⟨tail, rest, hafter, hahead, hlast⟩ := closingQuote?_split hclose
    have hfront : text.take offset = older.reverse ++ q :: inner.reverse := by
      rw [← List.reverse_reverse (text.take offset), hbefore]
      simp
    have htext : text = older.reverse ++ q :: (inner.reverse ++ tail ++ q :: rest) := by
      rw [← List.take_append_drop offset text, hfront, hafter]
      simp
    have hoffset : offset = older.length + 1 + n := by
      have hlen := congrArg List.length hfront
      simp only [List.length_take, List.length_append, List.length_cons, List.length_reverse]
        at hlen
      omega
    have hbody : (text.drop (offset - n)).take (n + ahead) = inner.reverse ++ tail := by
      rw [show offset - n = older.reverse.length + 1 by simp; omega, htext, ← List.drop_drop,
        List.drop_left, List.drop_one, List.tail_cons]
      exact List.take_left' (by simp [hn, hahead])
    have hl : l = ⟨inner.reverse ++ tail, offset - n, q⟩ := by rw [← hbody, ← hl]
    subst hl
    refine ⟨hq, ?_, older.reverse, rest, htext, ?_⟩
    · -- With nothing between the offset and the closing quote, the character before that quote is
      -- the one before the offset.
      rw [hbefore, List.head?_append] at hlast
      rw [List.getLast?_append, List.getLast?_reverse]
      cases htail : tail.getLast? with
      | some c => simpa [htail] using hlast
      | none =>
        cases hinner : inner.head? with
        | some c => simpa [htail, hinner] using hlast
        | none => simp
    · simp only [List.length_reverse]
      omega

/-- The literal found around an offset is one of those found from the front just when the quote it
opens with is not taken by another of them, and the quotes in its body that are like it stand each
behind an odd number of backslashes. -/
theorem enclosingLiteral_mem_literals_iff {text : List Char} {offset : Nat} {l : Literal}
    (h : enclosingLiteral text offset = .ok (some l)) :
    l ∈ literals text ↔
      (∀ m ∈ literals text, ¬ m.Takes (l.start - 1)) ∧ AllEscaped l.quote l.body := by
  obtain ⟨hq, hlast, front, rest, htext, hstart⟩ := enclosingLiteral_split h
  rw [mem_literals_iff htext hstart hq, slashRun_eq_zero hlast]
  simp

theorem enclosingLiteral_mem_literals_escaped_quote :
    let text := "s(\"a\\\"b\").n('c')".toList
    let l : Literal := ⟨"a\\\"b".toList, 3, '"'⟩
    enclosingLiteral text 6 = .ok (some l) ∧ l ∈ literals text ∧
      (∀ m ∈ literals text, ¬ m.Takes (l.start - 1)) ∧ AllEscaped l.quote l.body := by
  intro text l
  have hfound : enclosingLiteral text 6 = .ok (some l) := by decide
  have hmem : l ∈ literals text := by decide +kernel
  exact ⟨hfound, hmem, (enclosingLiteral_mem_literals_iff hfound).mp hmem⟩

/-- The code between two literals of a line is taken for a literal, and so is a literal that ends in
an escaped backslash together with what follows up to the next quote. -/
theorem enclosingLiteral_notMem_literals :
    (enclosingLiteral "s(\"bd\").fast(\"2\")".toList 8 = .ok (some ⟨").fast(".toList, 6, '"'⟩) ∧
      ⟨").fast(".toList, 6, '"'⟩ ∉ literals "s(\"bd\").fast(\"2\")".toList) ∧
    (enclosingLiteral "'\\\\' + 'x'".toList 2 = .ok (some ⟨"\\\\' + ".toList, 1, '\''⟩) ∧
      ⟨"\\\\' + ".toList, 1, '\''⟩ ∉ literals "'\\\\' + 'x'".toList) := by
  decide +kernel

end PatternServer.Document
