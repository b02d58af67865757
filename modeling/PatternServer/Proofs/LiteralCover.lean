import Mathlib.Data.List.Sort
import PatternServer.Proofs.LiteralScanners

/-!
# Which literals a text has

A quoted stretch of a text is told by its two ends: there stands a quote, and between them are
items, each an escaped character or a character that needs no escape. Such stretches may overlap,
since the closing quote of one may open another. A list of them that is in order, without overlaps,
and leaves no place outside at which a quoted stretch begins is the list that the scan from the
front finds; there is no other one.

Nothing is said here about which of the literals hold patterns.
-/

namespace PatternServer.Document

set_option autoImplicit false

/-- What may stand between two quotes `q`: backslashes with one character behind each, whatever that
is, and characters that are neither a backslash nor the quote. -/
inductive Items (q : Char) : List Char → Prop where
  | nil : Items q []
  | escape (c : Char) {s : List Char} (h : Items q s) : Items q ('\\' :: c :: s)
  | plain {c : Char} {s : List Char} (hc : c ≠ '\\') (hq : c ≠ q) (h : Items q s) :
      Items q (c :: s)

/-- The part of a text from one offset up to another. -/
def slice (text : List Char) (i j : Nat) : List Char :=
  (text.drop i).take (j - i)

/-- A quoted stretch of a text, from its opening quote at `i` to its closing quote at `j`. -/
structure IsLiteral (text : List Char) (q : Char) (i j : Nat) : Prop where
  quote : q = '\'' ∨ q = '"'
  ordered : i < j
  opening : text[i]? = some q
  closing : text[j]? = some q
  items : Items q (slice text (i + 1) j)

/-- The offset is that of a character of the literal or of one of its quotes. -/
def Literal.Spans (l : Literal) (p : Nat) : Prop :=
  l.start - 1 ≤ p ∧ p ≤ l.stop

/-- What makes a list of literals the literals of a text. -/
structure LiteralsOf (text : List Char) (ls : List Literal) : Prop where
  increasing : ls.Pairwise fun l m => l.start < m.start
  disjoint : ls.Pairwise fun l m => ∀ p, ¬ (l.Spans p ∧ m.Spans p)
  literal : ∀ l ∈ ls, ∃ i, l.start = i + 1 ∧ IsLiteral text l.quote i l.stop ∧
    l.body = slice text l.start l.stop
  complete : ∀ q p j, IsLiteral text q p j → ∃ l ∈ ls, l.Spans p

/-! Items, and the length of a body. -/

theorem items_escape_iff {q d : Char} {s : List Char} : Items q ('\\' :: d :: s) ↔ Items q s := by
  constructor
  · intro h
    cases h with
    | escape _ h => exact h
    | plain hc => exact absurd rfl hc
  · exact Items.escape d

theorem items_plain_iff {q c : Char} (hc : c ≠ '\\') (hq : c ≠ q) {s : List Char} :
    Items q (c :: s) ↔ Items q s := by
  constructor
  · intro h
    cases h with
    | escape => exact absurd rfl hc
    | plain _ _ h => exact h
  · exact Items.plain hc hq

theorem not_items_backslash (q : Char) : ¬ Items q ['\\'] := by
  intro h
  cases h with
  | plain hc => exact hc rfl

theorem not_items_quote {q : Char} (hq : q ≠ '\\') (s : List Char) : ¬ Items q (q :: s) := by
  intro h
  cases h with
  | escape => exact hq rfl
  | plain _ hne => exact hne rfl

/-- The body that begins here ends at the first quote that no item takes. -/
theorem bodyLength?_eq_some_iff {q : Char} (hq : q ≠ '\\') (s : List Char) (n : Nat) :
    bodyLength? q s = some n ↔ s[n]? = some q ∧ Items q (s.take n) := by
  fun_induction bodyLength? q s generalizing n with
  | case1 => simp
  | case2 =>
    cases n with
    | zero => simpa using fun h : '\\' = q => absurd h.symm hq
    | succ n => simp
  | case3 d rest ih =>
    rcases n with _ | _ | n
    · simpa using fun h : '\\' = q => absurd h.symm hq
    · simp [not_items_backslash]
    · simp [ih, items_escape_iff]
  | case4 rest =>
    cases n with
    | zero => simp [Items.nil]
    | succ n => simp [not_items_quote hq]
  | case5 c rest hc hne ih =>
    cases n with
    | zero => simp [hne]
    | succ n => simp [ih, items_plain_iff hc hne]

theorem isQuote_iff {q : Char} : isQuote q = true ↔ q = '\'' ∨ q = '"' := by
  simp [isQuote]

theorem isLiteral_iff {text : List Char} {q : Char} {i j : Nat} :
    IsLiteral text q i j ↔ isQuote q = true ∧ text[i]? = some q ∧
      ∃ n, j = i + 1 + n ∧ bodyLength? q (text.drop (i + 1)) = some n := by
  constructor
  · intro h
    have hquote := isQuote_iff.mpr h.quote
    have hj : i + 1 + (j - (i + 1)) = j := by
      have := h.ordered
      omega
    refine ⟨hquote, h.opening, j - (i + 1), hj.symm, ?_⟩
    rw [bodyLength?_eq_some_iff (isQuote_ne_backslash hquote), List.getElem?_drop, hj]
    exact ⟨h.closing, h.items⟩
  · rintro ⟨hquote, hopening, n, rfl, hn⟩
    rw [bodyLength?_eq_some_iff (isQuote_ne_backslash hquote), List.getElem?_drop] at hn
    refine ⟨isQuote_iff.mp hquote, by omega, hopening, hn.1, ?_⟩
    rw [slice, Nat.add_sub_cancel_left]
    exact hn.2

/-- Where a quoted stretch begins decides where it ends. -/
theorem IsLiteral.unique {text : List Char} {q q' : Char} {i j j' : Nat}
    (h : IsLiteral text q i j) (h' : IsLiteral text q' i j') : q = q' ∧ j = j' := by
  have hq : q = q' := Option.some.inj (h.opening.symm.trans h'.opening)
  subst hq
  obtain ⟨_, _, n, rfl, hn⟩ := isLiteral_iff.mp h
  obtain ⟨_, _, n', rfl, hn'⟩ := isLiteral_iff.mp h'
  refine ⟨rfl, ?_⟩
  rw [Option.some.inj (hn.symm.trans hn')]

/-! The scan from the front. -/

/-- Where a literal was found, its quote stands in the text and its body is read behind it. -/
theorem literalsFrom_split {offset : Nat} {s : List Char} {l : Literal}
    (h : l ∈ literalsFrom offset s) :
    isQuote l.quote = true ∧ ∃ front rest, s = front ++ l.quote :: rest ∧
      l.start = offset + front.length + 1 ∧ bodyLength? l.quote rest = some l.body.length ∧
      l.body = rest.take l.body.length := by
  fun_induction literalsFrom offset s with
  | case1 => simp at h
  | case2 offset c rest hc n hn ih =>
    have hlt := bodyLength?_lt hn
    rcases List.mem_cons.mp h with rfl | h
    · have hlen : (rest.take n).length = n := List.length_take_of_le (by omega)
      refine ⟨hc, [], rest, rfl, rfl, ?_, ?_⟩
      · rwa [hlen]
      · rw [hlen]
    · obtain ⟨hquote, front, back, hdrop, hstart, hbody⟩ := ih h
      refine ⟨hquote, c :: (rest.take (n + 1) ++ front), back, ?_, ?_, hbody⟩
      · rw [List.cons_append, List.append_assoc, ← hdrop, List.take_append_drop]
      · have hlen : (rest.take (n + 1)).length = n + 1 := List.length_take_of_le (by omega)
        rw [hstart, List.length_cons, List.length_append, hlen]
        omega
  | case3 offset c rest _ _ ih =>
    obtain ⟨hquote, front, back, rfl, hstart, hbody⟩ := ih h
    exact ⟨hquote, c :: front, back, rfl, by rw [hstart, List.length_cons]; omega, hbody⟩
  | case4 offset c rest _ ih =>
    obtain ⟨hquote, front, back, rfl, hstart, hbody⟩ := ih h
    exact ⟨hquote, c :: front, back, rfl, by rw [hstart, List.length_cons]; omega, hbody⟩

theorem literals_isLiteral {text : List Char} {l : Literal} (h : l ∈ literals text) :
    ∃ i, l.start = i + 1 ∧ IsLiteral text l.quote i l.stop ∧
      l.body = slice text l.start l.stop := by
  obtain ⟨hquote, front, rest, htext, hstart, hlength, hbody⟩ := literalsFrom_split h
  rw [Nat.zero_add] at hstart
  have hdrop : text.drop (front.length + 1) = rest := by
    rw [htext, ← List.drop_drop, List.drop_left]
    rfl
  refine ⟨front.length, hstart, isLiteral_iff.mpr ⟨hquote, ?_, l.body.length, ?_, ?_⟩, ?_⟩
  · simp [htext]
  · rw [Literal.stop, hstart]
  · rwa [hdrop]
  · rw [slice, Literal.stop, Nat.add_sub_cancel_left, hstart, hdrop]
    exact hbody

/-- A place where a quoted stretch begins is in one of the literals: if the scan comes to it, it
finds that stretch there. -/
theorem literals_complete {text : List Char} {q : Char} {p j : Nat} (h : IsLiteral text q p j) :
    ∃ l ∈ literals text, l.Spans p := by
  by_cases hfree : ∀ l ∈ literals text, ¬ l.Takes p
  · obtain ⟨hquote, hopening, n, _, hn⟩ := isLiteral_iff.mp h
    obtain ⟨hlt, hget⟩ := List.getElem?_eq_some_iff.mp hopening
    have hdrop : text.drop p = q :: text.drop (p + 1) := by
      rw [List.drop_eq_getElem_cons hlt, hget]
    have hsuffix : literalsFrom (0 + p) (text.drop p) <:+ literals text := by
      apply literalsFrom_drop_suffix
      rwa [Nat.zero_add]
    rw [hdrop, literalsFrom, if_pos hquote, hn] at hsuffix
    refine ⟨_, hsuffix.subset List.mem_cons_self, ?_⟩
    simp only [Literal.Spans, Literal.stop]
    omega
  · simp only [not_forall, not_not] at hfree
    obtain ⟨l, hl, hstart, hstop⟩ := hfree
    exact ⟨l, hl, by omega, hstop⟩

theorem literalsOf_literals (text : List Char) : LiteralsOf text (literals text) where
  increasing := by
    refine (literals_ordered text).imp ?_
    intro l m hlm
    exact Nat.lt_of_le_of_lt l.start_le_stop hlm
  disjoint := by
    refine (literalsFrom_apart 0 text).imp ?_
    rintro l m hlm p ⟨⟨_, hp⟩, hp', _⟩
    omega
  literal := fun _ hl => literals_isLiteral hl
  complete := fun _ _ _ h => literals_complete h

/-! There is one list of literals. -/

namespace LiteralsOf

variable {text : List Char} {A B : List Literal}

/-- Literals of two lists that begin at the same place are the same. -/
theorem eq_of_start_eq (hA : LiteralsOf text A) (hB : LiteralsOf text B) {l m : Literal}
    (hl : l ∈ A) (hm : m ∈ B) (hstart : l.start = m.start) : l = m := by
  obtain ⟨i, hi, hlit, hbody⟩ := hA.literal l hl
  obtain ⟨i', hi', hlit', hbody'⟩ := hB.literal m hm
  have hii : i = i' := by omega
  subst hii
  obtain ⟨hquote, hstop⟩ := hlit.unique hlit'
  have hsame : l.body = m.body := by rw [hbody, hbody', hstart, hstop]
  have heta : l = ⟨m.body, m.start, m.quote⟩ := by rw [← hsame, ← hstart, ← hquote]
  exact heta

theorem not_both_span (hA : LiteralsOf text A) {l m : Literal} (hl : l ∈ A) (hm : m ∈ A)
    (hne : l ≠ m) (p : Nat) : ¬ (l.Spans p ∧ m.Spans p) := by
  have : Std.Symm fun l m : Literal => ∀ p, ¬ (l.Spans p ∧ m.Spans p) :=
    ⟨fun _ _ h p hp => h p hp.symm⟩
  exact hA.disjoint.forall hl hm hne p

/-- By induction on where a literal begins: what covers its beginning in the other list begins no
later, and if it began earlier it would be in this list too and overlap. -/
theorem mem_of_start (n : Nat) (hA : LiteralsOf text A) (hB : LiteralsOf text B) {l : Literal}
    (hl : l ∈ A) (hn : l.start = n) : l ∈ B := by
  induction n using Nat.strongRecOn generalizing A B l with
  | ind n ih =>
    obtain ⟨i, hi, hlit, _⟩ := hA.literal l hl
    obtain ⟨m, hm, hspan⟩ := hB.complete _ _ _ hlit
    obtain ⟨i', hi', _⟩ := hB.literal m hm
    by_cases hstart : m.start = l.start
    · rwa [← hB.eq_of_start_eq hA hm hl hstart]
    · have hbefore : m.start < n := by
        have := hspan.1
        omega
      have hmA : m ∈ A := ih m.start hbefore hB hA hm rfl
      have hown : l.Spans i := by
        have := l.start_le_stop
        exact ⟨by omega, by omega⟩
      exact absurd ⟨hown, hspan⟩ (hA.not_both_span hl hmA (fun h => hstart (by rw [h])) i)

theorem unique (hA : LiteralsOf text A) (hB : LiteralsOf text B) : A = B := by
  have : Std.Irrefl fun l m : Literal => l.start < m.start := ⟨fun l => Nat.lt_irrefl l.start⟩
  have : Std.Antisymm fun l m : Literal => l.start < m.start :=
    ⟨fun l m hlm hml => absurd hlm (Nat.lt_asymm hml)⟩
  refine hA.increasing.eq_of_mem_iff hB.increasing ?_
  intro l
  exact ⟨fun hl => mem_of_start l.start hA hB hl rfl, fun hl => mem_of_start l.start hB hA hl rfl⟩

end LiteralsOf

/-- The scan from the front finds the literals of a text: in increasing order, disjoint, each a
quoted stretch with its body, and none of them left out that begins outside the others. It is the
only list of this kind. -/
theorem literalsOf_iff_eq_literals (text : List Char) (ls : List Literal) :
    LiteralsOf text ls ↔ ls = literals text := by
  constructor
  · intro h
    exact h.unique (literalsOf_literals text)
  · rintro rfl
    exact literalsOf_literals text

end PatternServer.Document
