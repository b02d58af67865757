import PatternServer.Proofs.ScansByOffset

/-!
# The literal around an offset

The search backwards from an offset goes past everything that is no line end, no semicolon and no
quote of its own; the search onwards goes past everything that is no line end and not the quote that
was found before. Each is told here by where it stops, and from the two it follows what a literal
around an offset is: two quotes of one kind, with the offset between them and nothing in between at
which a search would have stopped.

Whether such a literal is one that the scan from the front finds is another question; a literal of
that scan with a plain body is always found again from each of its offsets.
-/

namespace PatternServer.Document

set_option autoImplicit false

/-! Where a search stops. -/

/-- Of the offsets before `n`, the last one that a search does not pass. -/
def LastStop (P : Nat → Prop) (n k : Nat) : Prop :=
  k < n ∧ ¬ P k ∧ ∀ i, k < i → i < n → P i

/-- Of the offsets from `i` on, the first one that a search does not pass. -/
def FirstStop (P : Nat → Prop) (i j : Nat) : Prop :=
  i ≤ j ∧ ¬ P j ∧ ∀ k, i ≤ k → k < j → P k

section
variable {P : Nat → Prop} {i k n : Nat}

theorem lastStop_of_passed (h : P n) : LastStop P (n + 1) k ↔ LastStop P n k := by
  constructor
  · rintro ⟨hlt, hstop, hbetween⟩
    have hne : k ≠ n := by
      rintro rfl
      exact hstop h
    exact ⟨by omega, hstop, fun i hki hin => hbetween i hki (Nat.lt_succ_of_lt hin)⟩
  · rintro ⟨hlt, hstop, hbetween⟩
    refine ⟨Nat.lt_succ_of_lt hlt, hstop, ?_⟩
    intro i hki hin
    rcases Nat.lt_succ_iff_lt_or_eq.mp hin with hin | rfl
    · exact hbetween i hki hin
    · exact h

theorem lastStop_of_stopped (h : ¬ P n) : LastStop P (n + 1) k ↔ k = n := by
  constructor
  · rintro ⟨hlt, _, hbetween⟩
    by_contra hne
    exact h (hbetween n (by omega) (Nat.lt_succ_self n))
  · rintro rfl
    exact ⟨Nat.lt_succ_self k, h, fun i hki hik => by omega⟩

theorem firstStop_of_passed (h : P i) : FirstStop P i k ↔ FirstStop P (i + 1) k := by
  constructor
  · rintro ⟨hle, hstop, hbetween⟩
    have hne : i ≠ k := by
      rintro rfl
      exact hstop h
    exact ⟨by omega, hstop, fun j hij hjk => hbetween j (Nat.le_of_succ_le hij) hjk⟩
  · rintro ⟨hle, hstop, hbetween⟩
    refine ⟨Nat.le_of_succ_le hle, hstop, ?_⟩
    intro j hij hjk
    rcases Nat.eq_or_lt_of_le hij with rfl | hij
    · exact h
    · exact hbetween j hij hjk

theorem firstStop_of_stopped (h : ¬ P i) : FirstStop P i k ↔ k = i := by
  constructor
  · rintro ⟨hle, _, hbetween⟩
    by_contra hne
    exact h (hbetween i (Nat.le_refl i) (by omega))
  · rintro rfl
    exact ⟨Nat.le_refl k, h, fun j hkj hjk => by omega⟩

end

/-- The search backwards goes past the character at an offset. -/
def PassedBack (text : List Char) (i : Nat) : Prop :=
  ∀ c, text[i]? = some c → c ≠ '\n' ∧ c ≠ ';' ∧ (isQuote c = true → Escaped text i)

/-- The search for a quote onwards goes past the character at an offset. -/
def PassedOn (text : List Char) (q : Char) (i : Nat) : Prop :=
  ∀ c, text[i]? = some c → c ≠ '\n' ∧ (c = q → Escaped text i)

section
variable {text : List Char} {i : Nat} {c : Char}

theorem passedBack_iff (h : text[i]? = some c) :
    PassedBack text i ↔ c ≠ '\n' ∧ c ≠ ';' ∧ (isQuote c = true → Escaped text i) := by
  simp [PassedBack, h]

theorem passedOn_iff (h : text[i]? = some c) (q : Char) :
    PassedOn text q i ↔ c ≠ '\n' ∧ (c = q → Escaped text i) := by
  simp [PassedOn, h]

theorem PassedBack.escaped (hpassed : PassedBack text i) (h : text[i]? = some c)
    (hc : isQuote c = true) : Escaped text i :=
  (hpassed c h).2.2 hc

theorem not_escaped_of_stopped_back (h : text[i]? = some c) (hc : isQuote c = true)
    (hstopped : ¬ PassedBack text i) : ¬ Escaped text i := by
  intro hescaped
  refine hstopped ((passedBack_iff h).mpr ⟨?_, ?_, fun _ => hescaped⟩)
  · rintro rfl
    simp [isQuote] at hc
  · rintro rfl
    simp [isQuote] at hc

theorem not_escaped_of_stopped_on (h : text[i]? = some c) (hc : isQuote c = true)
    (hstopped : ¬ PassedOn text c i) : ¬ Escaped text i := by
  intro hescaped
  refine hstopped ((passedOn_iff h c).mpr ⟨?_, fun _ => hescaped⟩)
  rintro rfl
  simp [isQuote] at hc

theorem quoteBefore_passed (h : text[i]? = some c) (hpassed : PassedBack text i) :
    quoteBefore text (i + 1) = quoteBefore text i := by
  obtain ⟨hline, hsemicolon, hquote⟩ := (passedBack_iff h).mp hpassed
  rw [quoteBefore_succ h]
  by_cases hc : isQuote c = true
  · rw [if_pos hc, if_pos (hquote hc)]
  · rw [if_neg hc, if_neg (not_or.mpr ⟨hline, hsemicolon⟩)]

theorem quoteBefore_stopped (h : text[i]? = some c) (hstopped : ¬ PassedBack text i) :
    quoteBefore text (i + 1) = .ok (if isQuote c then some (i, c) else none) := by
  rw [quoteBefore_succ h]
  by_cases hc : isQuote c = true
  · rw [if_pos hc, if_pos hc, if_neg (not_escaped_of_stopped_back h hc hstopped)]
  · have hend : c = '\n' ∨ c = ';' := by
      by_contra hend
      obtain ⟨hline, hsemicolon⟩ := not_or.mp hend
      exact hstopped ((passedBack_iff h).mpr ⟨hline, hsemicolon, fun hq => absurd hq hc⟩)
    rw [if_neg hc, if_neg hc, if_pos hend]

theorem quoteFrom_passed (h : text[i]? = some c) {q : Char} (hpassed : PassedOn text q i)
    (count : Nat) : quoteFrom text q (count + 1) i = quoteFrom text q count (i + 1) := by
  obtain ⟨hline, hquote⟩ := (passedOn_iff h q).mp hpassed
  rw [quoteFrom_succ h]
  by_cases hc : c = q
  · rw [if_pos hc, if_pos (hquote hc)]
  · rw [if_neg hc, if_neg hline]

theorem quoteFrom_stopped (h : text[i]? = some c) {q : Char} (hq : isQuote q = true)
    (hstopped : ¬ PassedOn text q i) (count : Nat) :
    quoteFrom text q (count + 1) i = .ok (if c = q then some i else none) := by
  rw [quoteFrom_succ h]
  by_cases hc : c = q
  · subst hc
    rw [if_pos rfl, if_pos rfl, if_neg (not_escaped_of_stopped_on h hq hstopped)]
  · have hline : c = '\n' := by
      by_contra hline
      exact hstopped ((passedOn_iff h q).mpr ⟨hline, fun hquote => absurd hquote hc⟩)
    rw [if_neg hc, if_neg hc, if_pos hline]

end

/-- The search backwards finds the last place at which it stops, if a quote stands there. -/
theorem quoteBefore_eq_some_iff {text : List Char} {n k : Nat} {q : Char} (h : n ≤ text.length) :
    quoteBefore text n = .ok (some (k, q)) ↔
      LastStop (PassedBack text) n k ∧ text[k]? = some q ∧ isQuote q = true := by
  induction n with
  | zero => simp [quoteBefore, LastStop]
  | succ n ih =>
    obtain ⟨c, hc⟩ := exists_getElem? h
    by_cases hpassed : PassedBack text n
    · rw [quoteBefore_passed hc hpassed, ih (Nat.le_of_succ_le h), lastStop_of_passed hpassed]
    · rw [quoteBefore_stopped hc hpassed, lastStop_of_stopped hpassed]
      constructor
      · intro hfound
        by_cases hquote : isQuote c = true
        · rw [if_pos hquote] at hfound
          cases hfound
          exact ⟨rfl, hc, hquote⟩
        · rw [if_neg hquote] at hfound
          cases hfound
      · rintro ⟨rfl, hk, hq⟩
        cases hc.symm.trans hk
        rw [if_pos hq]

/-- The search onwards finds the first place at which it stops, if the quote stands there. -/
theorem quoteFrom_eq_some_iff {text : List Char} {count i j : Nat} {q : Char}
    (h : i + count = text.length) (hq : isQuote q = true) :
    quoteFrom text q count i = .ok (some j) ↔
      FirstStop (PassedOn text q) i j ∧ text[j]? = some q := by
  induction count generalizing i with
  | zero =>
    refine iff_of_false (by simp [quoteFrom]) ?_
    rintro ⟨⟨hij, _⟩, hj⟩
    obtain ⟨hlt, _⟩ := List.getElem?_eq_some_iff.mp hj
    omega
  | succ count ih =>
    have hlt : i < text.length := by omega
    obtain ⟨c, hc⟩ := exists_getElem? hlt
    by_cases hpassed : PassedOn text q i
    · rw [quoteFrom_passed hc hpassed, ih (by omega), firstStop_of_passed hpassed]
    · rw [quoteFrom_stopped hc hq hpassed, firstStop_of_stopped hpassed]
      constructor
      · intro hfound
        by_cases hquote : c = q
        · rw [if_pos hquote] at hfound
          cases hfound
          exact ⟨rfl, hc.trans (congrArg some hquote)⟩
        · rw [if_neg hquote] at hfound
          cases hfound
      · rintro ⟨rfl, hj⟩
        cases hc.symm.trans hj
        rw [if_pos rfl]

/-! The literal around an offset. -/

/-- What makes a literal the one around an offset. -/
structure Surrounds (text : List Char) (offset : Nat) (l : Literal) : Prop where
  quote : isQuote l.quote = true
  behindOpening : 0 < l.start
  start_le : l.start ≤ offset
  le_stop : offset ≤ l.stop
  body : l.body = slice text l.start l.stop
  opening : text[l.start - 1]? = some l.quote
  opening_plain : ¬ Escaped text (l.start - 1)
  closing : text[l.stop]? = some l.quote
  closing_plain : ¬ Escaped text l.stop
  before : ∀ i, l.start ≤ i → i < offset → PassedBack text i
  behind : ∀ i, offset ≤ i → i < l.stop → PassedOn text l.quote i

theorem length_slice {text : List Char} {i j : Nat} (h : j ≤ text.length) :
    (slice text i j).length = j - i := by
  rw [slice, List.length_take, List.length_drop]
  omega

theorem literalAround_eq_some_iff {text : List Char} {offset : Nat} {l : Literal} :
    literalAround text offset = .ok (some l) ↔
      ∃ i q j, quoteBefore text offset = .ok (some (i, q)) ∧
        quoteFrom text q (text.length - offset) offset = .ok (some j) ∧
          l = ⟨slice text (i + 1) j, i + 1, q⟩ := by
  constructor
  · intro h
    unfold literalAround at h
    rcases hbefore : quoteBefore text offset with e | _ | ⟨i, q⟩
    · rw [hbefore] at h
      cases h
    · rw [hbefore] at h
      cases h
    · rw [hbefore, bind_ok] at h
      rcases hbehind : quoteFrom text q (text.length - offset) offset with e | _ | j
      · simp only [hbehind] at h
        cases h
      · simp only [hbehind] at h
        cases h
      · simp only [hbehind] at h
        cases h
        exact ⟨i, q, j, rfl, hbehind, rfl⟩
  · rintro ⟨i, q, j, hbefore, hbehind, rfl⟩
    simp only [literalAround, hbefore, hbehind, bind_ok]
    rfl

/-- The scan around an offset finds a literal just when that literal surrounds the offset. -/
theorem enclosingLiteral_eq_some_iff {text : List Char} {offset : Nat} {l : Literal} :
    enclosingLiteral text offset = .ok (some l) ↔ Surrounds text offset l := by
  rw [← literalAround_eq, literalAround_eq_some_iff]
  constructor
  · rintro ⟨i, q, j, hbefore, hbehind, rfl⟩
    have hle : offset ≤ text.length := by
      by_contra hlt
      rw [quoteBefore_behind (Nat.not_le.mp hlt)] at hbefore
      cases hbefore
    obtain ⟨⟨hlt, hstopped, hpassed⟩, hopening, hq⟩ := (quoteBefore_eq_some_iff hle).mp hbefore
    obtain ⟨⟨hoj, hstopped', hpassed'⟩, hclosing⟩ :=
      (quoteFrom_eq_some_iff (Nat.add_sub_cancel' hle) hq).mp hbehind
    have hj := (List.getElem?_eq_some_iff.mp hclosing).1
    have hstop : Literal.stop ⟨slice text (i + 1) j, i + 1, q⟩ = j := by
      simp only [Literal.stop, length_slice (Nat.le_of_lt hj)]
      omega
    exact
      { quote := hq
        behindOpening := Nat.succ_pos i
        start_le := hlt
        le_stop := by rwa [hstop]
        body := by rw [hstop]
        opening := hopening
        opening_plain := not_escaped_of_stopped_back hopening hq hstopped
        closing := by rwa [hstop]
        closing_plain := by
          rw [hstop]
          exact not_escaped_of_stopped_on hclosing hq hstopped'
        before := fun k hik hk => hpassed k hik hk
        behind := by rwa [hstop] }
  · intro h
    have hstop := (List.getElem?_eq_some_iff.mp h.closing).1
    have hle := Nat.le_of_lt (Nat.lt_of_le_of_lt h.le_stop hstop)
    have hstart : l.start - 1 + 1 = l.start := Nat.sub_add_cancel h.behindOpening
    have hstart_le := h.start_le
    refine ⟨l.start - 1, l.quote, l.stop, ?_, ?_, ?_⟩
    · refine (quoteBefore_eq_some_iff hle).mpr ⟨⟨by omega, ?_, ?_⟩, h.opening, h.quote⟩
      · exact fun hpassed => h.opening_plain (hpassed.escaped h.opening h.quote)
      · exact fun i hi ho => h.before i (by omega) ho
    · refine (quoteFrom_eq_some_iff (Nat.add_sub_cancel' hle) h.quote).mpr
        ⟨⟨h.le_stop, ?_, h.behind⟩, h.closing⟩
      exact fun hpassed => h.closing_plain ((hpassed l.quote h.closing).2 rfl)
    · rw [hstart, ← h.body]

/-! What a literal around an offset holds, and which literals are found again. -/

namespace Surrounds

variable {text : List Char} {offset : Nat} {l : Literal}

theorem body_getElem? (h : Surrounds text offset l) {k : Nat} (hk : k < l.body.length) :
    l.body[k]? = text[l.start + k]? := by
  have hlt : k < l.stop - l.start := by
    rw [Literal.stop]
    omega
  rw [h.body, slice, List.getElem?_take_of_lt hlt, List.getElem?_drop]

/-- Neither search goes past a line end or a plain quote of the literal. -/
theorem passed (h : Surrounds text offset l) {i : Nat} (hstart : l.start ≤ i) (hstop : i < l.stop) :
    PassedOn text l.quote i := by
  rcases Nat.lt_or_ge i offset with hlt | hge
  · intro c hc
    obtain ⟨hline, _, hquote⟩ := h.before i hstart hlt c hc
    refine ⟨hline, ?_⟩
    rintro rfl
    exact hquote h.quote
  · exact h.behind i hge hstop

theorem feed_notMem (h : Surrounds text offset l) : '\n' ∉ l.body := by
  intro hmem
  obtain ⟨k, hk, hfeed⟩ := List.getElem_of_mem hmem
  have htext : text[l.start + k]? = some '\n' := by
    rw [← h.body_getElem? hk, List.getElem?_eq_getElem hk, hfeed]
  have hstop : l.start + k < l.stop := Nat.add_lt_add_left hk l.start
  exact (h.passed (Nat.le_add_right _ _) hstop '\n' htext).1 rfl

theorem escaped_of_quote (h : Surrounds text offset l) {k : Nat} (hk : l.body[k]? = some l.quote) :
    Escaped l.body k := by
  have hlt := (List.getElem?_eq_some_iff.mp hk).1
  have hstop : l.start + k < l.stop := Nat.add_lt_add_left hlt l.start
  rw [h.body_getElem? hlt] at hk
  obtain ⟨_, hbackslash⟩ := (h.passed (Nat.le_add_right _ _) hstop l.quote hk).2 rfl
  cases k with
  | zero =>
    -- In front of the body stands the opening quote, and no backslash.
    rw [Nat.add_zero, h.opening] at hbackslash
    exact absurd (Option.some.inj hbackslash) (isQuote_ne_backslash h.quote)
  | succ k =>
    refine ⟨Nat.succ_pos k, ?_⟩
    rwa [Nat.add_sub_cancel, h.body_getElem? (Nat.lt_of_succ_lt hlt)]

end Surrounds

theorem mem_slice {text : List Char} {i j k : Nat} {c : Char} (hik : i ≤ k) (hkj : k < j)
    (hc : text[k]? = some c) : c ∈ slice text i j := by
  apply List.mem_of_getElem? (i := k - i)
  rw [slice, List.getElem?_take_of_lt (by omega), List.getElem?_drop, Nat.add_sub_cancel' hik, hc]

/-- A literal with a plain body surrounds each of its offsets, if no backslash stands before it. -/
theorem surrounds_of_mem_literals {text : List Char} {l : Literal} (h : l ∈ literals text)
    (hopening : ¬ Escaped text (l.start - 1))
    (hplain : ∀ c ∈ l.body, isQuote c = false ∧ c ≠ '\\' ∧ c ≠ '\n' ∧ c ≠ ';') {offset : Nat}
    (hstart : l.start ≤ offset) (hstop : offset ≤ l.stop) : Surrounds text offset l := by
  obtain ⟨i, hi, hliteral, hbody⟩ := literals_isLiteral h
  have hquote := isQuote_iff.mpr hliteral.quote
  have hbefore : l.start - 1 = i := by omega
  have hinside : ∀ k c, l.start ≤ k → k < l.stop → text[k]? = some c →
      isQuote c = false ∧ c ≠ '\\' ∧ c ≠ '\n' ∧ c ≠ ';' := by
    intro k c hk hk' hc
    apply hplain
    rw [hbody]
    exact mem_slice hk hk' hc
  refine ⟨hquote, by omega, hstart, hstop, hbody, ?_, hopening, hliteral.closing, ?_, ?_, ?_⟩
  · rw [hbefore]
    exact hliteral.opening
  · rintro ⟨hpos, hbackslash⟩
    by_cases hempty : l.stop = l.start
    · -- Directly before the closing quote stands the opening one.
      rw [hempty, hbefore, hliteral.opening] at hbackslash
      exact isQuote_ne_backslash hquote (Option.some.inj hbackslash)
    · exact (hinside _ _ (by omega) (by omega) hbackslash).2.1 rfl
  · intro k hk hk' c hc
    obtain ⟨hc', _, hline, hsemicolon⟩ := hinside k c hk (by omega) hc
    exact ⟨hline, hsemicolon, fun hc => by rw [hc'] at hc; cases hc⟩
  · intro k hk hk' c hc
    obtain ⟨hc', _, hline, _⟩ := hinside k c (by omega) hk' hc
    refine ⟨hline, ?_⟩
    rintro rfl
    rw [hquote] at hc'
    cases hc'

/-- What the scan around an offset finds is a quoted stretch of the text around that offset, between
two plain quotes of one kind, with no line end and no other plain quote of that kind inside. And a
literal of the text is found from each of its offsets, if nothing stands in its body or before it
that means anything to a search. -/
theorem enclosingLiteral_quoted_stretch (text : List Char) :
    (∀ offset, offset ≤ text.length →
      ∃ found, enclosingLiteral text offset = .ok found ∧
        ∀ l, found = some l →
          l.start ≤ offset ∧ offset ≤ l.stop ∧ l.body = slice text l.start l.stop ∧
          (l.quote = '\'' ∨ l.quote = '"') ∧ 0 < l.start ∧
          text[l.start - 1]? = some l.quote ∧ text[l.stop]? = some l.quote ∧
          ¬ Escaped text (l.start - 1) ∧ ¬ Escaped text l.stop ∧ '\n' ∉ l.body ∧
          ∀ k, l.body[k]? = some l.quote → Escaped l.body k) ∧
    ∀ l ∈ literals text, ¬ Escaped text (l.start - 1) →
      (∀ c ∈ l.body, isQuote c = false ∧ c ≠ '\\' ∧ c ≠ '\n' ∧ c ≠ ';') →
      ∀ offset, l.start ≤ offset → offset ≤ l.stop →
        enclosingLiteral text offset = .ok (some l) := by
  constructor
  · intro offset hoffset
    have hfound : ∃ found, enclosingLiteral text offset = .ok found := by
      rw [enclosingLiteral, if_neg (Nat.not_lt.mpr hoffset)]
      exact ⟨_, rfl⟩
    obtain ⟨found, hfound⟩ := hfound
    refine ⟨found, hfound, ?_⟩
    rintro l rfl
    have h := enclosingLiteral_eq_some_iff.mp hfound
    exact ⟨h.start_le, h.le_stop, h.body, isQuote_iff.mp h.quote, h.behindOpening, h.opening,
      h.closing, h.opening_plain, h.closing_plain, h.feed_notMem, fun k hk => h.escaped_of_quote hk⟩
  · intro l hl hopening hplain offset hstart hstop
    exact enclosingLiteral_eq_some_iff.mpr
      (surrounds_of_mem_literals hl hopening hplain hstart hstop)

/-- From the last offset of a literal that holds an escaped quote, and from the end of an empty
literal behind another one. -/
theorem enclosingLiteral_quoted_stretch_ends :
    let text := "s(\"a\\\"b\").n('')".toList
    let l : Literal := ⟨"a\\\"b".toList, 3, '"'⟩
    let m : Literal := ⟨[], 13, '\''⟩
    (7 ≤ text.length ∧ enclosingLiteral text 7 = .ok (some l) ∧ l.start ≤ 7 ∧ 7 ≤ l.stop ∧
      l.body[2]? = some l.quote ∧ Escaped l.body 2) ∧
    (m ∈ literals text ∧ ¬ Escaped text (m.start - 1) ∧
      enclosingLiteral text 13 = .ok (some m)) := by
  intro text l m
  obtain ⟨hfound, hagain⟩ := enclosingLiteral_quoted_stretch text
  have hlength : 7 ≤ text.length := by decide
  have hl : enclosingLiteral text 7 = .ok (some l) := by decide
  have hm : m ∈ literals text := by decide +kernel
  have hplain : ¬ Escaped text (m.start - 1) := by decide
  obtain ⟨found, heq, hparts⟩ := hfound 7 hlength
  obtain ⟨hstart, hstop, _, _, _, _, _, _, _, _, hescaped⟩ :=
    hparts l (Except.ok.inj (heq.symm.trans hl))
  refine ⟨⟨hlength, hl, hstart, hstop, rfl, hescaped 2 rfl⟩, hm, hplain, ?_⟩
  exact hagain m hm hplain (by simp [m]) 13 (by decide) (by decide)

end PatternServer.Document
