import PatternServer.Proofs.LiteralCover
import PatternServer.Proofs.OpenCalls

/-!
# Calls past a literal

The search for the call around an offset reads the body of a literal before the offset like code: a
parenthesis or a comma in it counts. With each character of the body replaced by a letter nothing in
it counts, and the two searches can come to different calls.

They come to the same call just when what stands between the literal and the offset decides alone,
or the calls open before the body and behind it agree as far out as the search goes.
-/

namespace PatternServer.Document

set_option autoImplicit false

open PatternServer.Text

/-- A text with the letter x for each character of the body of a literal. -/
def Literal.blank (l : Literal) (text : List Char) : List Char :=
  text.take l.start ++ List.replicate l.body.length 'x' ++ text.drop l.stop

/-- What stands between a literal and an offset behind it. -/
def Literal.gap (l : Literal) (text : List Char) (offset : Nat) : List Char :=
  slice text (l.stop + 1) offset

/-- How many parentheses that were open before a text it closes, when `depth` parentheses of its own
are open. -/
def closedParens (depth : Nat) : List Char → Nat
  | [] => 0
  | c :: rest =>
    if c = '(' then closedParens (depth + 1) rest
    else if c = ')' then
      match depth with
      | 0 => closedParens 0 rest + 1
      | depth + 1 => closedParens depth rest
    else closedParens depth rest

/-- The call whose argument list the end of a text is in. -/
def callAtEnd (s : List Char) : Option CallContext :=
  (openParens s).head?.bind (callOf? s)

/-! What a text does to the parentheses open before it. -/

theorem modifyHead_addCommas_zero (stack : List OpenParen) :
    stack.modifyHead (OpenParen.addCommas 0) = stack := by
  cases stack <;> rfl

theorem modifyHead_addCommas (m n : Nat) (stack : List OpenParen) :
    (stack.modifyHead (OpenParen.addCommas m)).modifyHead (OpenParen.addCommas n) =
      stack.modifyHead (OpenParen.addCommas (n + m)) := by
  cases stack with
  | nil => rfl
  | cons top rest =>
    simp only [List.modifyHead_cons, OpenParen.addCommas, Nat.add_assoc, Nat.add_comm m n]

/-- A text closes some of the parentheses open before it, adds commas to the one that is then on
top, and opens some of its own. -/
theorem exists_readParens_append (offset : Nat) (own : List OpenParen) (s : List Char) :
    ∃ n, ∀ stack, readParens offset (own ++ stack) s =
      readParens offset own s ++
        (stack.drop (closedParens own.length s)).modifyHead (OpenParen.addCommas n) := by
  induction s generalizing offset own with
  | nil =>
    refine ⟨0, fun stack => ?_⟩
    rw [modifyHead_addCommas_zero]
    rfl
  | cons c s ih =>
    by_cases hopen : c = '('
    · subst hopen
      exact ih (offset + 1) (⟨offset, 0⟩ :: own)
    by_cases hclose : c = ')'
    · subst hclose
      cases own with
      | nil =>
        obtain ⟨n, hn⟩ := ih (offset + 1) []
        refine ⟨n, fun stack => ?_⟩
        have hdrop : stack.drop (closedParens 0 s + 1) = stack.tail.drop (closedParens 0 s) := by
          cases stack <;> simp
        have hclosed : closedParens 0 (')' :: s) = closedParens 0 s + 1 := rfl
        rw [List.length_nil, hclosed, hdrop]
        exact hn stack.tail
      | cons top own => exact ih (offset + 1) own
    by_cases hcomma : c = ','
    · subst hcomma
      cases own with
      | nil =>
        obtain ⟨n, hn⟩ := ih (offset + 1) []
        have hclosed : closedParens 0 (',' :: s) = closedParens 0 s := rfl
        rw [List.length_nil, hclosed]
        -- The comma counts for a parenthesis that the rest of the text leaves open.
        cases hk : closedParens 0 s with
        | zero =>
          refine ⟨n + 1, fun stack => ?_⟩
          have hrest := hn (stack.modifyHead (OpenParen.addCommas 1))
          rw [List.length_nil, hk, List.drop_zero, modifyHead_addCommas] at hrest
          exact hrest
        | succ k =>
          refine ⟨n, fun stack => ?_⟩
          have hrest := hn (stack.modifyHead (OpenParen.addCommas 1))
          have hdrop : (stack.modifyHead (OpenParen.addCommas 1)).drop (k + 1) =
              stack.drop (k + 1) := by
            cases stack <;> rfl
          rw [List.length_nil, hk, hdrop] at hrest
          exact hrest
      | cons top own => exact ih (offset + 1) (top.addCommas 1 :: own)
    · have hread : ∀ stack, readParen offset c stack = stack := by
        intro stack
        rw [readParen, if_neg hopen, if_neg hclose, if_neg hcomma]
      obtain ⟨n, hn⟩ := ih (offset + 1) own
      refine ⟨n, fun stack => ?_⟩
      have hclosed : closedParens own.length (c :: s) = closedParens own.length s := by
        rw [closedParens.eq_def]
        simp only [if_neg hopen, if_neg hclose]
      rw [readParens, readParens, hread, hread, hclosed]
      exact hn stack

/-- What is on top behind a text is its own, or comes from before it. -/
theorem exists_head?_readParens (offset : Nat) (s : List Char) :
    ∃ n, ∀ stack, (readParens offset stack s).head? =
      (readParens offset [] s).head?.or
        ((stack[closedParens 0 s]?).map (OpenParen.addCommas n)) := by
  obtain ⟨n, hn⟩ := exists_readParens_append offset [] s
  refine ⟨n, fun stack => ?_⟩
  have hread := hn stack
  rw [List.nil_append, List.length_nil] at hread
  rw [hread, List.head?_append, List.head?_modifyHead, List.head?_drop]

theorem le_position_of_mem_readParens {low offset : Nat} (hlow : low ≤ offset)
    {stack : List OpenParen} (hstack : ∀ q ∈ stack, low ≤ q.position) {s : List Char}
    {p : OpenParen} (h : p ∈ readParens offset stack s) : low ≤ p.position := by
  induction s generalizing offset stack with
  | nil => exact hstack p h
  | cons c s ih =>
    apply ih (Nat.le_succ_of_le hlow) _ h
    intro q hq
    rcases position_of_mem_readParen hq with hposition | ⟨r, hr, hposition⟩
    · omega
    · have := hstack r hr
      omega

theorem openParens_append (s : List Char) {t : List Char}
    (h : ∀ c ∈ t, isStatementEnd c = false) :
    openParens (s ++ t) = readParens s.length (openParens s) t := by
  induction t using List.reverseRecOn with
  | nil => rw [List.append_nil, readParens]
  | append_singleton t c ih =>
    have hc : isStatementEnd c = false := h c (by simp)
    have ht : ∀ d ∈ t, isStatementEnd d = false := fun d hd => h d (by simp [hd])
    rw [← List.append_assoc, openParens_concat hc, ih ht, readParens_append, List.length_append]
    rfl

/-- Behind the end of a statement nothing is open that was open before it. -/
theorem openParens_append_congr {s s' t : List Char} (hlength : s.length = s'.length)
    (h : ∃ c ∈ t, isStatementEnd c = true) :
    openParens (s ++ t) = openParens (s' ++ t) ∧
      ∀ p ∈ openParens (s ++ t), s.length ≤ p.position := by
  induction t using List.reverseRecOn with
  | nil => simp at h
  | append_singleton t c ih =>
    rw [← List.append_assoc, ← List.append_assoc]
    cases hc : isStatementEnd c with
    | true =>
      rw [openParens_concat_end hc, openParens_concat_end hc]
      exact ⟨rfl, by simp⟩
    | false =>
      have ht : ∃ c ∈ t, isStatementEnd c = true := by
        obtain ⟨d, hd, hend⟩ := h
        rcases List.mem_append.mp hd with hd | hd
        · exact ⟨d, hd, hend⟩
        · rw [List.mem_singleton.mp hd, hc] at hend
          cases hend
      obtain ⟨hsame, hposition⟩ := ih ht
      have hlengths : (s ++ t).length = (s' ++ t).length := by
        rw [List.length_append, List.length_append, hlength]
      rw [openParens_concat hc, openParens_concat hc, hsame, hlengths]
      refine ⟨rfl, ?_⟩
      intro p hp
      rcases position_of_mem_readParen hp with hnew | ⟨q, hq, hold⟩
      · rw [hnew, ← hlengths, List.length_append]
        omega
      · have := hposition q (by rwa [hsame])
        omega

/-- Where a statement ends in a text, or a parenthesis is left open in it, what is on top behind it
was opened in it. -/
theorem head?_openParens_congr {s s' t : List Char} (hlength : s.length = s'.length)
    (h : (∃ c ∈ t, isStatementEnd c = true) ∨ readParens s.length [] t ≠ []) :
    (openParens (s ++ t)).head? = (openParens (s' ++ t)).head? ∧
      ∀ p, (openParens (s ++ t)).head? = some p → s.length ≤ p.position := by
  by_cases hend : ∃ c ∈ t, isStatementEnd c = true
  · obtain ⟨hsame, hposition⟩ := openParens_append_congr hlength hend
    refine ⟨by rw [hsame], ?_⟩
    intro p hp
    exact hposition p (List.mem_of_head? hp)
  · have hown := h.resolve_left hend
    have hfree : ∀ c ∈ t, isStatementEnd c = false := by simpa using hend
    obtain ⟨top, htop⟩ := Option.isSome_iff_exists.mp (List.isSome_head?.mpr hown)
    obtain ⟨n, hn⟩ := exists_head?_readParens s.length t
    rw [openParens_append _ hfree, openParens_append _ hfree, ← hlength, hn (openParens s),
      hn (openParens s'), htop]
    refine ⟨rfl, ?_⟩
    intro p hp
    rw [Option.some_or] at hp
    cases hp
    exact le_position_of_mem_readParens (Nat.le_refl _) (by simp) (List.mem_of_head? htop)

/-- A character that neither the search nor the reading takes notice of. -/
def IsPlain (c : Char) : Prop :=
  c ∉ ['(', ')', ','] ∧ isStatementEnd c = false

theorem openParens_append_plain (s : List Char) {t : List Char} (h : ∀ c ∈ t, IsPlain c) :
    openParens (s ++ t) = openParens s := by
  induction t using List.reverseRecOn with
  | nil => rw [List.append_nil]
  | append_singleton t c ih =>
    obtain ⟨hc, hend⟩ := h c (by simp)
    simp only [List.mem_cons, List.not_mem_nil, or_false, not_or] at hc
    rw [← List.append_assoc, openParens_concat hend, ih fun d hd => h d (by simp [hd]), readParen,
      if_neg hc.1, if_neg hc.2.1, if_neg hc.2.2]

/-! Calls behind a quote. -/

theorem rtakeWhile_past {p : Char → Bool} {q : Char} (hq : p q = false) (s t : List Char) :
    (s ++ q :: t).rtakeWhile p = t.rtakeWhile p := by
  induction t using List.reverseRecOn with
  | nil => rw [List.rtakeWhile_concat, hq, List.rtakeWhile_nil, if_neg Bool.false_ne_true]
  | append_singleton t c ih =>
    rw [← List.cons_append, ← List.append_assoc, List.rtakeWhile_concat, List.rtakeWhile_concat, ih]

/-- A name does not reach over a quote. -/
theorem callOf?_past {q : Char} (hq : isNameChar q = false) {s s' : List Char}
    (hlength : s.length = s'.length) (t : List Char) {p : OpenParen}
    (hp : s.length < p.position) : callOf? (s ++ q :: t) p = callOf? (s' ++ q :: t) p := by
  obtain ⟨k, hk⟩ := Nat.exists_eq_add_of_lt hp
  have hname : ∀ u : List Char, u.length = s.length →
      ((u ++ q :: t).take p.position).rtakeWhile isNameChar = (t.take k).rtakeWhile isNameChar := by
    intro u hu
    rw [hk, ← hu, Nat.add_assoc, List.take_length_add_append, List.take_succ_cons,
      rtakeWhile_past hq]
  rw [callOf?, callOf?, hname s rfl, hname s' hlength.symm]

theorem isQuote_plain {q : Char} (h : isQuote q = true) :
    IsPlain q ∧ isNameChar q = false := by
  rcases isQuote_iff.mp h with rfl | rfl <;> exact ⟨by unfold IsPlain; decide, by decide⟩

theorem enclosingCall_eq_callAtEnd {text : List Char} {offset : Nat} (h : offset ≤ text.length) :
    enclosingCall text offset = .ok (callAtEnd (text.take offset)) := by
  rw [enclosingCall, if_neg (Nat.not_lt.mpr h), openCall?_reverse, CallContext.later_zero,
    Option.map_id, id_eq, ← List.head?_eq_getElem?, callAtEnd]

section Behind
variable {q : Char} {s s' t : List Char}

/-- Where a statement ends behind the quote, or a parenthesis is left open there, what stands before
the quote does not matter. -/
theorem callAtEnd_congr (hq : isQuote q = true) (hlength : s.length = s'.length)
    (h : (∃ c ∈ t, isStatementEnd c = true) ∨ readParens (s.length + 1) [] t ≠ []) :
    callAtEnd (s ++ q :: t) = callAtEnd (s' ++ q :: t) := by
  have hfront : ∀ u : List Char, u ++ q :: t = (u ++ [q]) ++ t := by
    intro u
    rw [List.append_assoc, List.singleton_append]
  have hlengths : (s ++ [q]).length = (s' ++ [q]).length := by simp [hlength]
  have hsize : (s ++ [q]).length = s.length + 1 := by simp
  obtain ⟨htop, hbehind⟩ := head?_openParens_congr hlengths (by rwa [hsize])
  rw [← hfront, ← hfront] at htop
  rw [← hfront, hsize] at hbehind
  rw [callAtEnd, callAtEnd, ← htop]
  apply Option.bind_congr
  intro p hp
  exact callOf?_past (isQuote_plain hq).2 hlength t (hbehind p hp)

/-- Otherwise the call is one of those open before the quote, as many levels out as parentheses are
closed behind it. -/
theorem exists_callAtEnd_eq (hq : isQuote q = true) (size : Nat)
    (hend : ∀ c ∈ t, isStatementEnd c = false) (hown : readParens (size + 1) [] t = []) :
    ∃ n, ∀ s : List Char, s.length = size → callAtEnd (s ++ q :: t) =
      (((openParens s)[closedParens 0 t]?).bind (callOf? s)).map (CallContext.later n) := by
  obtain ⟨n, hn⟩ := exists_head?_readParens (size + 1) t
  refine ⟨n, fun s hs => ?_⟩
  have hquote : openParens (s ++ [q]) = openParens s :=
    openParens_append_plain s (by simpa using (isQuote_plain hq).1)
  have hfront : s ++ q :: t = (s ++ [q]) ++ t := by simp
  have hsize : (s ++ [q]).length = size + 1 := by simp [hs]
  have htop : (openParens (s ++ q :: t)).head? =
      ((openParens s)[closedParens 0 t]?).map (OpenParen.addCommas n) := by
    rw [hfront, openParens_append _ hend, hsize, hn, hown, hquote]
    rfl
  rw [callAtEnd, htop, bind_addCommas, bind_callOf?_append]

end Behind

/-! Literals before an offset. -/

theorem literal_split {text : List Char} {l : Literal} (h : l ∈ literals text) :
    isQuote l.quote = true ∧ ∃ front rest, text = front ++ (l.body ++ l.quote :: rest) ∧
      front.length = l.start := by
  obtain ⟨hquote, front, rest, htext, hstart, hlength, hbody⟩ := literalsFrom_split h
  obtain ⟨hclosing, -⟩ :=
    (bodyLength?_eq_some_iff (isQuote_ne_backslash hquote) rest _).mp hlength
  obtain ⟨hlt, hget⟩ := List.getElem?_eq_some_iff.mp hclosing
  have hrest : rest = l.body ++ l.quote :: rest.drop (l.body.length + 1) := by
    conv_lhs => rw [← List.take_append_drop l.body.length rest, ← hbody,
      List.drop_eq_getElem_cons hlt, hget]
  refine ⟨hquote, front ++ [l.quote], rest.drop (l.body.length + 1), ?_, ?_⟩
  · rw [htext, List.append_assoc, ← hrest]
    rfl
  · rw [hstart, List.length_append, List.length_singleton]
    omega

/-- A literal and an offset behind it cut the text at the same places with the body and without. -/
theorem literal_pieces {text : List Char} {l : Literal} (hl : l ∈ literals text) {offset : Nat}
    (hstop : l.stop < offset) :
    text.take offset = text.take l.stop ++ l.quote :: l.gap text offset ∧
      (l.blank text).take offset =
        (text.take l.start ++ List.replicate l.body.length 'x') ++ l.quote :: l.gap text offset ∧
      (text.take l.start).length = l.start ∧ (l.blank text).length = text.length := by
  obtain ⟨-, front, rest, htext, hstart⟩ := literal_split hl
  have hsize : (front ++ l.body).length = l.stop := by
    rw [List.length_append, hstart, Literal.stop]
  rw [← List.append_assoc] at htext
  have htake : text.take l.stop = front ++ l.body := by
    rw [htext, ← hsize, List.take_left]
  have hfront : text.take l.start = front := by
    rw [htext, List.append_assoc, ← hstart, List.take_left]
  have hdrop : text.drop l.stop = l.quote :: rest := by
    rw [htext, ← hsize, List.drop_left]
  have hblank : l.blank text = (front ++ List.replicate l.body.length 'x') ++ l.quote :: rest := by
    rw [Literal.blank, hfront, hdrop]
  have hblankSize : (front ++ List.replicate l.body.length 'x').length = l.stop := by
    rw [List.length_append, List.length_replicate, hstart, Literal.stop]
  obtain ⟨k, rfl⟩ := Nat.exists_eq_add_of_lt hstop
  have hgap : l.gap text (l.stop + k + 1) = rest.take k := by
    have hlength : l.stop + k + 1 - (l.stop + 1) = k := by omega
    rw [Literal.gap, slice, hlength, ← List.drop_drop, hdrop]
    rfl
  rw [hgap, htake, hfront, Nat.add_assoc]
  refine ⟨?_, ?_, hstart, ?_⟩
  · rw [htext, ← hsize, List.take_length_add_append, List.take_succ_cons]
  · rw [hblank, ← hblankSize, List.take_length_add_append, List.take_succ_cons]
  · rw [hblank, htext, List.length_append, hblankSize, List.length_append, hsize]

/-- Whether the body of a literal is there or not, the call around an offset behind the literal is
the same just when a statement ends between them, a parenthesis is opened between them and left
open, or the calls open before the body and behind it agree at the level that is reached by closing
what is closed between them. -/
theorem enclosingCall_blank_iff {text : List Char} {l : Literal} (hl : l ∈ literals text)
    {offset : Nat} (hstop : l.stop < offset) (hoffset : offset ≤ text.length) :
    enclosingCall (l.blank text) offset = enclosingCall text offset ↔
      (∃ c ∈ l.gap text offset, isStatementEnd c = true) ∨
      readParens (l.stop + 1) [] (l.gap text offset) ≠ [] ∨
      ((openParens (text.take l.start))[closedParens 0 (l.gap text offset)]?).bind (callOf? text) =
        ((openParens (text.take l.stop))[closedParens 0 (l.gap text offset)]?).bind
          (callOf? text) := by
  obtain ⟨htake, hblank, hstart, hlength⟩ := literal_pieces hl hstop
  have hquote := (literal_split hl).1
  have hx : ∀ c ∈ List.replicate l.body.length 'x', IsPlain c := by
    intro c hc
    rw [List.eq_of_mem_replicate hc]
    unfold IsPlain
    decide
  have hbefore : (text.take l.start ++ List.replicate l.body.length 'x').length = l.stop := by
    rw [List.length_append, List.length_replicate, hstart, Literal.stop]
  have hbehind : (text.take l.stop).length = l.stop :=
    List.length_take_of_le (Nat.le_of_lt (Nat.lt_of_lt_of_le hstop hoffset))
  rw [enclosingCall_eq_callAtEnd hoffset, enclosingCall_eq_callAtEnd (by rwa [hlength]), htake,
    hblank, Except.ok.injEq]
  by_cases hshielded : (∃ c ∈ l.gap text offset, isStatementEnd c = true) ∨
      readParens (l.stop + 1) [] (l.gap text offset) ≠ []
  · have hsame := callAtEnd_congr (t := l.gap text offset) hquote (hbefore.trans hbehind.symm)
      (by rwa [hbefore])
    exact iff_of_true hsame (or_assoc.mp (Or.inl hshielded))
  · obtain ⟨hend, hown⟩ := not_or.mp hshielded
    obtain ⟨n, hn⟩ := exists_callAtEnd_eq (t := l.gap text offset) hquote l.stop
      (by simpa using hend) (not_not.mp hown)
    rw [hn _ hbefore, hn _ hbehind, openParens_append_plain _ hx, bind_callOf?_append,
      (Option.map_injective (CallContext.later_injective n)).eq_iff]
    have hcalls : ∀ k, ((openParens (text.take k))[closedParens 0 (l.gap text offset)]?).bind
        (callOf? text) = ((openParens (text.take k))[closedParens 0 (l.gap text offset)]?).bind
          (callOf? (text.take k)) := by
      intro k
      have htold := bind_callOf?_append (text.take k) (text.drop k)
        (closedParens 0 (l.gap text offset))
      rwa [List.take_append_drop] at htold
    rw [hcalls, hcalls]
    exact ⟨fun h => Or.inr (Or.inr h), fun h => (h.resolve_left hend).resolve_left hown⟩

/-- A comma inside the parentheses of a pattern does no harm. -/
theorem enclosingCall_blank_iff_closed :
    let text := "s(\"bd(3,8)\", ".toList
    let l : Literal := ⟨"bd(3,8)".toList, 3, '"'⟩
    l ∈ literals text ∧ l.stop < 13 ∧ 13 ≤ text.length ∧
      enclosingCall (l.blank text) 13 = enclosingCall text 13 ∧
      enclosingCall text 13 = .ok (some ⟨['s'], 1⟩) := by
  intro text l
  have hl : l ∈ literals text := by decide +kernel
  have hstop : l.stop < 13 := by decide
  have hoffset : 13 ≤ text.length := by decide
  have hsame := (enclosingCall_blank_iff hl hstop hoffset).mpr (Or.inr (Or.inr (by decide)))
  exact ⟨hl, hstop, hoffset, hsame, by decide⟩

/-- A comma of a pattern counts as one between arguments, and a parenthesis in a literal hides the
call that the next argument is in. -/
theorem enclosingCall_blank_ne :
    (let text := "stack(\"[bd,sd]\", ".toList
      let l : Literal := ⟨"[bd,sd]".toList, 7, '"'⟩
      l ∈ literals text ∧ l.stop < 17 ∧ 17 ≤ text.length ∧
        l.body.any isStatementEnd = false ∧
        enclosingCall (l.blank text) 17 = .ok (some ⟨"stack".toList, 1⟩) ∧
        enclosingCall text 17 = .ok (some ⟨"stack".toList, 2⟩)) ∧
    (let text := "bank(\"a)\", \"b\")".toList
      let l : Literal := ⟨"a)".toList, 6, '"'⟩
      l ∈ literals text ∧ l.stop < 11 ∧ 11 ≤ text.length ∧
        l.body.any isStatementEnd = false ∧
        enclosingCall (l.blank text) 11 = .ok (some ⟨"bank".toList, 1⟩) ∧
        enclosingCall text 11 = .ok none) := by
  decide +kernel

end PatternServer.Document
