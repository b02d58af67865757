import Mathlib.Order.Nat
import PatternServer.Proofs.LiteralCover
import PatternServer.Proofs.Remarks
import PatternServer.Proofs.TextRuns

/-!
# Where words are remarked on without a parser

Without a parser the words of a body are its runs between separators, and a remark on a word begins
where the word first occurs in the body. The stretch that a remark covers is the word, letter for
letter, but it may be a part of a longer run: that is so just when a longer run with the word in it
stands before every run that is the word.
-/

namespace PatternServer.Diagnostics

set_option autoImplicit false

open PatternServer.Document PatternServer.Text PatternServer.Vocabulary

/-- A run of a body between its separators. -/
abbrev WordAt (body : List Char) (i : Nat) (word : List Char) : Prop :=
  RunAt isWordSeparator body i word

/-- A part of a text occurs at an offset and nowhere before. -/
structure FirstAt (part s : List Char) (i : Nat) : Prop where
  occurs : part <+: s.drop i
  first : ∀ j < i, ¬ part <+: s.drop j

/-! First occurrences. -/

section
variable {part s : List Char} {i : Nat}

theorem firstAt_zero_iff : FirstAt part s 0 ↔ part <+: s :=
  ⟨fun h => h.occurs, fun h => ⟨h, by simp⟩⟩

theorem firstAt_cons_iff {c : Char} :
    FirstAt part (c :: s) (i + 1) ↔ ¬ part <+: c :: s ∧ FirstAt part s i := by
  constructor
  · rintro ⟨hoccurs, hfirst⟩
    exact ⟨hfirst 0 i.succ_pos, hoccurs, fun j hj => hfirst (j + 1) (Nat.succ_lt_succ hj)⟩
  · rintro ⟨hzero, hoccurs, hfirst⟩
    refine ⟨hoccurs, fun j hj => ?_⟩
    cases j with
    | zero => exact hzero
    | succ j => exact hfirst j (Nat.lt_of_succ_lt_succ hj)

theorem firstOccurrence?_eq_some_iff (hne : part ≠ []) :
    firstOccurrence? part s = some i ↔ FirstAt part s i := by
  induction s generalizing i with
  | nil =>
    rw [firstOccurrence?, if_neg (by simpa using hne)]
    constructor
    · intro h
      cases h
    · intro h
      exact absurd (by simpa using h.occurs) hne
  | cons c s ih =>
    rw [firstOccurrence?]
    by_cases hc : part <+: c :: s
    · rw [if_pos (List.isPrefixOf_iff_prefix.mpr hc)]
      cases i with
      | zero => simp [firstAt_zero_iff, hc]
      | succ i => simp [firstAt_cons_iff, hc]
    · rw [if_neg (mt List.isPrefixOf_iff_prefix.mp hc)]
      cases i with
      | zero => simp [firstAt_zero_iff, hc]
      | succ i => simp [firstAt_cons_iff, hc, ih]

theorem exists_firstAt (h : part <+: s.drop i) : ∃ k, FirstAt part s k := by
  have hsome : ∃ k, part <+: s.drop k := ⟨i, h⟩
  classical
  exact ⟨Nat.find hsome, Nat.find_spec hsome, fun _ hj => Nat.find_min hsome hj⟩

end

/-! Words and their first occurrences. -/

section
variable {body word : List Char} {i : Nat}

/-- A word first occurs as a run just when every longer run with the word in it stands behind a run
that is the word. -/
theorem FirstAt.wordAt_iff (h : FirstAt word body i) (hne : word ≠ [])
    (hplain : ∀ c ∈ word, isWordSeparator c = false) :
    WordAt body i word ↔
      ∀ k run, WordAt body k run → word <:+: run → run ≠ word → ∃ j < k, WordAt body j word := by
  have hlength := List.length_pos_iff.mpr hne
  constructor
  · intro hword k run hrun hinside hlonger
    refine ⟨i, ?_, hword⟩
    -- Otherwise the run begins no later than the word, and reaches it, since the word does not
    -- occur before; but then they are one run.
    by_contra hle
    obtain ⟨front, rest, hsplit⟩ := hinside
    have hsub : word <+: body.drop (k + front.length) := by
      obtain ⟨after, hafter⟩ := hrun.occurs
      refine ⟨rest ++ after, ?_⟩
      rw [← List.drop_drop, ← hafter, ← hsplit]
      simp
    have hreach : i ≤ k + front.length := by
      by_contra hlt
      exact h.first _ (Nat.lt_of_not_le hlt) hsub
    have hrunLength : run.length = front.length + word.length + rest.length := by
      rw [← hsplit, List.length_append, List.length_append]
    exact hlonger (hrun.unique hword (j := i) (by omega) (by omega) (Nat.le_refl i) (by omega)).2
  · intro hbehind
    obtain ⟨k, run, hrun, hki, hik, hinside⟩ := exists_runAt hne hplain h.occurs
    by_cases hlonger : run = word
    · subst hlonger
      have hk : k = i := by omega
      rwa [hk] at hrun
    · obtain ⟨j, hj, hword⟩ := hbehind k run hrun hinside hlonger
      exact absurd hword.occurs (h.first j (by omega))

theorem mem_fallbackTokens :
    (i, word) ∈ fallbackTokens body ↔
      word ∈ body.splitOnP isWordSeparator ∧ word ≠ [] ∧ isNumeric word = false ∧
        firstOccurrence? word body = some i := by
  rw [fallbackTokens, List.mem_filterMap]
  constructor
  · rintro ⟨piece, hmem, hpiece⟩
    split at hpiece
    · cases hpiece
    · rename_i hkept
      obtain ⟨_, hfirst, heq⟩ := Option.map_eq_some_iff.mp hpiece
      cases heq
      obtain ⟨hne, hnumeric⟩ := not_or.mp (mt Bool.or_eq_true_iff.mpr hkept)
      exact ⟨hmem, by simpa using hne, by simpa using hnumeric, hfirst⟩
  · rintro ⟨hmem, hne, hnumeric, hfirst⟩
    exact ⟨word, hmem, by simp [hne, hnumeric, hfirst]⟩

theorem mem_fallbackTokens_iff :
    (i, word) ∈ fallbackTokens body ↔
      (∃ j, WordAt body j word) ∧ isNumeric word = false ∧ FirstAt word body i := by
  rw [mem_fallbackTokens]
  constructor
  · rintro ⟨hmem, hne, hnumeric, hfirst⟩
    exact ⟨(mem_splitOnP_iff hne).mp hmem, hnumeric, (firstOccurrence?_eq_some_iff hne).mp hfirst⟩
  · rintro ⟨⟨j, hj⟩, hnumeric, hfirst⟩
    exact ⟨(mem_splitOnP_iff hj.ne_nil).mpr ⟨j, hj⟩, hj.ne_nil, hnumeric,
      (firstOccurrence?_eq_some_iff hj.ne_nil).mpr hfirst⟩

theorem isNumeric_of_unknown {registry : Registry} (hword : WordAt body i word)
    (h : isKnownAtom registry (String.ofList word) = false) : isNumeric word = false := by
  have hfeed : '\n' ∉ word := by
    intro hmem
    have hblank := hword.plain '\n' hmem
    exact absurd hblank (by decide)
  have hlast : dropFinalNewline word = word := by
    rw [dropFinalNewline, if_neg]
    exact fun hlast => hfeed (List.mem_of_getLast? hlast)
  simp only [isKnownAtom, String.toList_ofList, hlast, Bool.or_eq_false_iff] at h
  simp only [h]

end

/-! The remarks. -/

namespace Context

variable (c : Context) (l : Literal)

/-- The remark on a word of a body at an offset of it. -/
def wordRemark (token : Nat × List Char) : Remark :=
  .unknownSample c.registry (String.ofList token.2) (l.start + token.1)
    (l.start + token.1 + token.2.length)

theorem checkWord_cases (r : Report) (token : Nat × List Char) :
    (c.checkWord l r token = r ∧
      (isKnownAtom c.registry (String.ofList token.2) = true ∨
        r.hasOfferAt (c.position (l.start + token.1)) = true)) ∨
    (c.checkWord l r token = c.put r (c.wordRemark l token) ∧
      isKnownAtom c.registry (String.ofList token.2) = false) := by
  simp only [checkWord]
  cases hknown : isKnownAtom c.registry (String.ofList token.2) with
  | true => exact Or.inl ⟨rfl, Or.inl rfl⟩
  | false =>
    cases hoffer : r.hasOfferAt (c.position (l.start + token.1)) with
    | true => exact Or.inl ⟨rfl, Or.inr rfl⟩
    | false => exact Or.inr ⟨rfl, rfl⟩

theorem hasOfferAt_checkWord {r : Report} {p : Position} (token : Nat × List Char)
    (h : r.hasOfferAt p = true) : (c.checkWord l r token).hasOfferAt p = true := by
  rcases c.checkWord_cases l r token with ⟨heq, _⟩ | ⟨heq, _⟩
  · rwa [heq]
  · rw [heq, hasOfferAt_put, h, Bool.or_true]

theorem hasOfferAt_foldl_checkWord {r : Report} {p : Position} (tokens : List (Nat × List Char))
    (h : r.hasOfferAt p = true) : (tokens.foldl (c.checkWord l) r).hasOfferAt p = true := by
  induction tokens generalizing r with
  | nil => exact h
  | cons token tokens ih => exact ih (c.hasOfferAt_checkWord l token h)

/-- The remarks on words are those on some of the unknown ones, in their order. -/
theorem foldl_checkWord_kept (r : Report) (tokens : List (Nat × List Char)) :
    ∃ kept : List (Nat × List Char), kept.Sublist tokens ∧
      (∀ token ∈ kept, isKnownAtom c.registry (String.ofList token.2) = false) ∧
      (tokens.foldl (c.checkWord l) r).diagnostics =
        r.diagnostics ++ kept.map fun token => c.diagnostic (c.wordRemark l token) := by
  induction tokens generalizing r with
  | nil => exact ⟨[], List.Sublist.slnil, by simp, by simp⟩
  | cons token tokens ih =>
    obtain ⟨kept, hsub, hunknown, hdiagnostics⟩ := ih (c.checkWord l r token)
    rcases c.checkWord_cases l r token with ⟨heq, _⟩ | ⟨heq, hnew⟩
    · rw [heq] at hdiagnostics
      exact ⟨kept, hsub.cons token, hunknown, by rw [List.foldl_cons, heq, hdiagnostics]⟩
    · rw [heq, diagnostics_put, List.append_assoc] at hdiagnostics
      refine ⟨token :: kept, hsub.cons_cons token, ?_, ?_⟩
      · intro t ht
        rcases List.mem_cons.mp ht with rfl | ht
        · exact hnew
        · exact hunknown t ht
      · rw [List.foldl_cons, heq, hdiagnostics]
        rfl

theorem hasOfferAt_of_unknown (r : Report) {tokens : List (Nat × List Char)} {i : Nat}
    {word : List Char} (hmem : (i, word) ∈ tokens)
    (hunknown : isKnownAtom c.registry (String.ofList word) = false) :
    (tokens.foldl (c.checkWord l) r).hasOfferAt (c.position (l.start + i)) = true := by
  obtain ⟨before, after, rfl⟩ := List.append_of_mem hmem
  rw [List.foldl_append, List.foldl_cons]
  apply hasOfferAt_foldl_checkWord
  rcases c.checkWord_cases l (before.foldl (c.checkWord l) r) (i, word) with
    ⟨heq, hknown | hoffer⟩ | ⟨heq, _⟩
  · rw [hunknown] at hknown
    cases hknown
  · rwa [heq]
  · rw [heq, hasOfferAt_put]
    simp [wordRemark]

end Context

theorem slice_of_occurs {text : List Char} {l : Literal} (h : l ∈ literals text) {i : Nat}
    {word : List Char} (hword : word <+: l.body.drop i) :
    slice text (l.start + i) (l.start + i + word.length) = word := by
  obtain ⟨_, _, _, hbody⟩ := literals_isLiteral h
  have hlength : word.length ≤ l.stop - l.start - i := by
    have hle := hword.length_le
    rw [List.length_drop] at hle
    simp only [Literal.stop]
    omega
  calc slice text (l.start + i) (l.start + i + word.length)
      = ((text.drop l.start).drop i).take word.length := by
        rw [slice, Nat.add_sub_cancel_left, List.drop_drop]
    _ = (l.body.drop i).take word.length := by
        rw [hbody, slice, List.drop_take, List.take_take, Nat.min_eq_left hlength]
    _ = word := (List.prefix_iff_eq_take.mp hword).symm

/-- What checking a body without a parser adds to a report. Each new remark is on an unknown run of
the body and covers the first place where the run occurs, which is in the document the run itself,
letter for letter. That place lies in one run, and is a whole run just when every longer run with
the word in it stands behind a run that is the word. And no unknown run is passed over: where it
first occurs there is an offer afterwards. -/
theorem checkFallback_places (c : Context) (l : Literal) (r : Report) :
    (∃ kept : List (Nat × List Char),
      (c.checkFallback l r).diagnostics =
        r.diagnostics ++ kept.map (fun token => c.diagnostic (c.wordRemark l token)) ∧
      ∀ i word, (i, word) ∈ kept →
        isKnownAtom c.registry (String.ofList word) = false ∧
        (∃ j, WordAt l.body j word) ∧ FirstAt word l.body i ∧
        (l ∈ literals c.text →
          slice c.text (l.start + i) (l.start + i + word.length) = word) ∧
        (∃ k run, WordAt l.body k run ∧ k ≤ i ∧ i + word.length ≤ k + run.length) ∧
        (WordAt l.body i word ↔
          ∀ k run, WordAt l.body k run → word <:+: run → run ≠ word →
            ∃ j < k, WordAt l.body j word)) ∧
    ∀ j word, WordAt l.body j word → isKnownAtom c.registry (String.ofList word) = false →
      ∃ i, FirstAt word l.body i ∧
        (c.checkFallback l r).hasOfferAt (c.position (l.start + i)) = true := by
  rw [Context.checkFallback]
  constructor
  · obtain ⟨kept, hsub, hunknown, hdiagnostics⟩ :=
      c.foldl_checkWord_kept l r (fallbackTokens l.body)
    refine ⟨kept, hdiagnostics, ?_⟩
    intro i word hmem
    obtain ⟨hword, _, hfirst⟩ := mem_fallbackTokens_iff.mp (hsub.subset hmem)
    obtain ⟨j, hj⟩ := hword
    obtain ⟨k, run, hrun, hki, hik, _⟩ := exists_runAt hj.ne_nil hj.plain hfirst.occurs
    exact ⟨hunknown (i, word) hmem, ⟨j, hj⟩, hfirst, fun hl => slice_of_occurs hl hfirst.occurs,
      ⟨k, run, hrun, hki, hik⟩, hfirst.wordAt_iff hj.ne_nil hj.plain⟩
  · intro j word hword hunknown
    obtain ⟨i, hfirst⟩ := exists_firstAt hword.occurs
    have htoken : (i, word) ∈ fallbackTokens l.body :=
      mem_fallbackTokens_iff.mpr ⟨⟨j, hword⟩, isNumeric_of_unknown hword hunknown, hfirst⟩
    exact ⟨i, hfirst, c.hasOfferAt_of_unknown l r htoken hunknown⟩

theorem isKnownAtom_casio : isKnownAtom .standard "casio" = true := by
  decide +kernel

theorem isKnownAtom_casi : isKnownAtom .standard "casi" = false := by
  decide +kernel

/-- With the longer word behind it, an unknown word is remarked on. -/
theorem checkFallback_places_before_longer :
    let c : Context := ⟨"s('casi casio')".toList, .utf16, .standard⟩
    let l : Literal := ⟨"casi casio".toList, 3, '\''⟩
    l ∈ literals c.text ∧
      (∃ i word, c.diagnostic (c.wordRemark l (i, word)) ∈ (c.checkFallback l .empty).diagnostics ∧
        FirstAt word l.body i ∧ slice c.text (l.start + i) (l.start + i + word.length) = word) ∧
      ∃ i, FirstAt "casi".toList l.body i ∧
        (c.checkFallback l .empty).hasOfferAt (c.position (l.start + i)) = true := by
  intro c l
  have hl : l ∈ literals c.text := by decide +kernel
  have hword : WordAt l.body 0 "casi".toList := by decide +kernel
  obtain ⟨⟨kept, hdiagnostics, hkept⟩, hall⟩ := checkFallback_places c l .empty
  refine ⟨hl, ?_, hall 0 "casi".toList hword isKnownAtom_casi⟩
  have htokens : fallbackTokens l.body = [(0, "casi".toList), (5, "casio".toList)] := by
    decide +kernel
  have hone : (c.checkFallback l .empty).diagnostics.length = 1 := by
    rw [Context.checkFallback, htokens]
    simp only [List.foldl_cons, List.foldl_nil, Context.checkWord, c, String.ofList_toList,
      isKnownAtom_casio, isKnownAtom_casi]
    rfl
  cases kept with
  | nil =>
    rw [hdiagnostics] at hone
    cases hone
  | cons token kept =>
    obtain ⟨i, word⟩ := token
    obtain ⟨_, _, hfirst, hcovered, _⟩ := hkept i word List.mem_cons_self
    exact ⟨i, word, by rw [hdiagnostics]; simp, hfirst, hcovered hl⟩

/-- With the longer word before it, an unknown word is remarked on inside of that word. -/
theorem checkFallback_inside_longer :
    let c : Context := ⟨"s(\"casio casi\")".toList, .utf16, .standard⟩
    let l : Literal := ⟨"casio casi".toList, 3, '"'⟩
    l ∈ literals c.text ∧
      (c.checkFallback l .empty).diagnostics =
        [c.diagnostic (.unknownSample .standard "casi" 3 7)] ∧
      ¬ WordAt l.body 0 "casi".toList ∧ WordAt l.body 0 "casio".toList ∧
      WordAt l.body 6 "casi".toList := by
  intro c l
  have htokens : fallbackTokens l.body = [(0, "casio".toList), (0, "casi".toList)] := by
    decide +kernel
  refine ⟨by decide +kernel, ?_, by decide +kernel, by decide +kernel, by decide +kernel⟩
  rw [Context.checkFallback, htokens]
  simp only [List.foldl_cons, List.foldl_nil, Context.checkWord, c, String.ofList_toList,
    isKnownAtom_casio, isKnownAtom_casi]
  rfl

end PatternServer.Diagnostics
