import PatternServer.Proofs.Backtracking
import PatternServer.Proofs.ScansByOffset
import PatternServer.Proofs.Scanning
import PatternServer.Proofs.TextRuns

/-!
# Which method calls a text has

A method call is a dot with a name behind it, white space or none, and an opening parenthesis. The
name is as long as can be and does not begin with a digit. The scan from the front finds these and
no others, each at its place.

A search with the pattern of a call gives up names and white space again when no parenthesis
follows, and goes on behind the parenthesis when one does. Neither makes a difference: a shorter
name is followed by a character of the name, and between a dot and its parenthesis is no other dot.
-/

namespace PatternServer.Document

set_option autoImplicit false

open PatternServer.Text

/-- A dot, a name that begins with no digit, white space and an opening parenthesis. -/
def callPattern : Matcher (List Char) := do
  let _ ← Matcher.one (· == '.')
  let first ← Matcher.one fun c => isNameChar c && !c.isDigit
  let more ← Matcher.many isNameChar
  let _ ← Matcher.many isBlank
  let _ ← Matcher.one (· == '(')
  return first :: more

/-- The calls that a search with the pattern finds. -/
def matchedCalls (text : List Char) : List CallSite :=
  (callPattern.allFrom 0 0 text).map fun found => ⟨found.2, found.1 + 1⟩

/-- What makes a name and an offset a method call of a text. -/
structure IsCallSite (text : List Char) (site : CallSite) : Prop where
  dot : 0 < site.start ∧ text[site.start - 1]? = some '.'
  name : RunAt (fun c => !isNameChar c) text site.start site.name
  begins : ∀ c ∈ site.name.head?, c.isDigit = false
  opened : ∃ blanks rest, text.drop (site.start + site.name.length) = blanks ++ '(' :: rest ∧
    ∀ c ∈ blanks, isBlank c = true

/-- A called name at the front of a text, and what stands behind its parenthesis. -/
structure Calls (s name rest : List Char) : Prop where
  ne_nil : name ≠ []
  plain : ∀ c ∈ name, isNameChar c = true
  begins : ∀ c ∈ name.head?, c.isDigit = false
  split : ∃ blanks, s = name ++ (blanks ++ '(' :: rest) ∧ ∀ c ∈ blanks, isBlank c = true

/-- What a called name is followed by is no part of it. -/
theorem head?_behind_name {blanks : List Char} (h : ∀ c ∈ blanks, isBlank c = true)
    (rest : List Char) : ∀ c ∈ (blanks ++ '(' :: rest).head?, isNameChar c = false := by
  intro c hc
  cases blanks with
  | nil =>
    cases hc
    decide
  | cons d blanks =>
    cases hc
    exact isNameChar_of_isBlank (h _ List.mem_cons_self)

theorem calledName?_eq_some_iff {s name : List Char} :
    calledName? s = some name ↔ ∃ rest, Calls s name rest := by
  constructor
  · intro h
    unfold calledName? at h
    split at h
    · cases h
    · rename_i c tail
      split at h
      · rename_i hc
        obtain ⟨hname, hdigit⟩ : isNameChar c = true ∧ c.isDigit = false := by simpa using hc
        split at h
        · rename_i rest hrest
          cases h
          refine ⟨rest, by simp [hname], fun _ => List.mem_takeWhile_imp, ?_, ?_⟩
          · simpa [hname] using hdigit
          · refine ⟨((c :: tail).dropWhile isNameChar).takeWhile isBlank, ?_,
              fun _ => List.mem_takeWhile_imp⟩
            rw [← hrest, List.takeWhile_append_dropWhile, List.takeWhile_append_dropWhile]
        · cases h
      · cases h
  · rintro ⟨rest, hne, hplain, hbegins, blanks, rfl, hblanks⟩
    obtain ⟨c, more, rfl⟩ := List.exists_cons_of_ne_nil hne
    have hbehind := head?_behind_name hblanks rest
    have htake := takeWhile_run hplain hbehind
    have hdrop := dropWhile_run hplain hbehind
    have hopen : isBlank '(' = false := by decide
    have hparen : (blanks ++ '(' :: rest).dropWhile isBlank = '(' :: rest :=
      dropWhile_run hblanks (by simpa using hopen)
    have hc : (isNameChar c && !c.isDigit) = true := by
      simp [hplain c List.mem_cons_self, hbegins c rfl]
    rw [List.cons_append] at htake hdrop ⊢
    simp only [calledName?, if_pos hc, hdrop, hparen, htake]

theorem mem_callPattern {s name rest : List Char} :
    (name, rest) ∈ callPattern s ↔ ∃ tail, s = '.' :: tail ∧ Calls tail name rest := by
  constructor
  · intro h
    simp only [callPattern, Matcher.mem_bind, Matcher.mem_one, Matcher.mem_many,
      Matcher.mem_pure] at h
    obtain ⟨dot, tail, ⟨rfl, hdot⟩, first, _, ⟨rfl, hfirst⟩, more, _, ⟨rfl, hmore⟩, blanks, _,
      ⟨rfl, hblanks⟩, paren, _, ⟨rfl, hparen⟩, rfl, rfl⟩ := h
    obtain rfl : dot = '.' := by simpa using hdot
    obtain rfl : paren = '(' := by simpa using hparen
    obtain ⟨hname, hdigit⟩ : isNameChar first = true ∧ first.isDigit = false := by
      simpa using hfirst
    refine ⟨_, rfl, by simp, ?_, by simpa using hdigit, blanks, rfl, hblanks⟩
    simpa using ⟨hname, hmore⟩
  · rintro ⟨tail, rfl, hne, hplain, hbegins, blanks, rfl, hblanks⟩
    obtain ⟨first, more, rfl⟩ := List.exists_cons_of_ne_nil hne
    simp only [callPattern, Matcher.mem_bind, Matcher.mem_one, Matcher.mem_many,
      Matcher.mem_pure]
    obtain ⟨hname, hmore⟩ := List.forall_mem_cons.mp hplain
    refine ⟨'.', _, ⟨rfl, rfl⟩, first, _, ⟨rfl, ?_⟩, more, _, ⟨rfl, hmore⟩, blanks, _,
      ⟨rfl, hblanks⟩, '(', _, ⟨rfl, rfl⟩, rfl, rfl⟩
    simp [hname, hbegins first rfl]

theorem dot_notMem_of_class {p : Char → Bool} (hp : p '.' = false) {s : List Char}
    (h : ∀ c ∈ s, p c = true) : '.' ∉ s := by
  intro hdot
  rw [h _ hdot] at hp
  cases hp

/-- From a dot to the parenthesis of its call no other dot stands. -/
theorem Calls.dot_notMem {s name rest : List Char} (h : Calls s name rest) :
    '.' ∉ s.take (s.length - rest.length) := by
  obtain ⟨-, hplain, -, blanks, rfl, hblanks⟩ := h
  have hlength : (name ++ (blanks ++ '(' :: rest)).length - rest.length =
      (name ++ (blanks ++ ['('])).length := by
    simp only [List.length_append, List.length_cons, List.length_nil]
    omega
  have hsplit : name ++ (blanks ++ '(' :: rest) = name ++ (blanks ++ ['(']) ++ rest := by simp
  rw [hlength, hsplit, List.take_left]
  simp [dot_notMem_of_class (by decide) hplain, dot_notMem_of_class (by decide) hblanks]

/-! The scan from the front. -/

theorem callSitesFrom_call {s name : List Char} (h : calledName? s = some name) (offset : Nat) :
    callSitesFrom offset ('.' :: s) = ⟨name, offset + 1⟩ :: callSitesFrom (offset + 1) s := by
  rw [callSitesFrom, if_pos rfl, h]

theorem callSitesFrom_pass {c : Char} {s : List Char} (h : c = '.' → calledName? s = none)
    (offset : Nat) : callSitesFrom offset (c :: s) = callSitesFrom (offset + 1) s := by
  rw [callSitesFrom]
  split
  · rename_i hc
    rw [h hc]
  · rfl

/-- A search that goes on behind each match, with some characters of the last one left, finds what
the scan finds that looks at every place. -/
theorem allFrom_callPattern {taken : Nat} {s : List Char} (h : '.' ∉ s.take taken) (offset : Nat) :
    (callPattern.allFrom offset taken s).map (fun found => (⟨found.2, found.1 + 1⟩ : CallSite)) =
      callSitesFrom offset s := by
  induction s generalizing offset taken with
  | nil => rfl
  | cons c s ih =>
    cases taken with
    | succ taken =>
      rw [List.take_succ_cons] at h
      obtain ⟨hc, hs⟩ := List.ne_and_not_mem_of_not_mem_cons h
      rw [Matcher.allFrom, ih hs, callSitesFrom_pass fun hdot => absurd hdot.symm hc]
    | zero =>
      cases hfirst : callPattern.first? (c :: s) with
      | some way =>
        obtain ⟨name, rest⟩ := way
        obtain ⟨_, hdot, hcalls⟩ := mem_callPattern.mp (Matcher.mem_of_first? hfirst)
        cases hdot
        have hname := calledName?_eq_some_iff.mpr ⟨rest, hcalls⟩
        rw [Matcher.allFrom, hfirst, callSitesFrom_call hname]
        simp only [List.map_cons, ih hcalls.dot_notMem]
      | none =>
        have hpass : c = '.' → calledName? s = none := by
          rintro rfl
          apply Option.eq_none_iff_forall_ne_some.mpr
          intro name hname
          obtain ⟨rest, hcalls⟩ := calledName?_eq_some_iff.mp hname
          exact Matcher.notMem_of_first? hfirst (mem_callPattern.mpr ⟨s, rfl, hcalls⟩)
        have hfree : '.' ∉ s.take 0 := by simp
        rw [Matcher.allFrom, hfirst, callSitesFrom_pass hpass]
        exact ih hfree (offset + 1)

theorem mem_callSitesFrom_cons {offset : Nat} {c : Char} {s : List Char} {site : CallSite} :
    site ∈ callSitesFrom offset (c :: s) ↔
      (c = '.' ∧ site.start = offset + 1 ∧ ∃ rest, Calls s site.name rest) ∨
        site ∈ callSitesFrom (offset + 1) s := by
  rw [← calledName?_eq_some_iff]
  by_cases hpass : c = '.' → calledName? s = none
  · rw [callSitesFrom_pass hpass]
    constructor
    · exact Or.inr
    · rintro (⟨hc, -, hname⟩ | h)
      · rw [hpass hc] at hname
        cases hname
      · exact h
  · obtain ⟨rfl, hname⟩ := Classical.not_imp.mp hpass
    obtain ⟨name, hname⟩ := Option.ne_none_iff_exists'.mp hname
    rw [callSitesFrom_call hname, List.mem_cons, hname]
    apply or_congr_left
    constructor
    · rintro rfl
      exact ⟨rfl, rfl, rfl⟩
    · rintro ⟨-, hstart, hsame⟩
      cases site
      simp_all

/-- The calls found are those that stand behind a dot, each with its offset. -/
theorem mem_callSitesFrom {offset : Nat} {s : List Char} {site : CallSite} :
    site ∈ callSitesFrom offset s ↔ ∃ front tail rest, s = front ++ '.' :: tail ∧
      site.start = offset + front.length + 1 ∧ Calls tail site.name rest := by
  induction s generalizing offset with
  | nil => simp [callSitesFrom]
  | cons c s ih =>
    rw [mem_callSitesFrom_cons, ih]
    constructor
    · rintro (⟨rfl, hstart, rest, hcalls⟩ | ⟨front, tail, rest, rfl, hstart, hcalls⟩)
      · exact ⟨[], s, rest, rfl, hstart, hcalls⟩
      · refine ⟨c :: front, tail, rest, rfl, ?_, hcalls⟩
        rw [hstart, List.length_cons]
        omega
    · rintro ⟨front, tail, rest, hs, hstart, hcalls⟩
      cases front with
      | nil =>
        cases hs
        exact Or.inl ⟨rfl, hstart, rest, hcalls⟩
      | cons d front =>
        cases hs
        refine Or.inr ⟨front, tail, rest, rfl, ?_, hcalls⟩
        rw [hstart, List.length_cons]
        omega

theorem isCallSite_iff {text : List Char} {site : CallSite} :
    IsCallSite text site ↔ ∃ front tail rest, text = front ++ '.' :: tail ∧
      site.start = front.length + 1 ∧ Calls tail site.name rest := by
  constructor
  · rintro ⟨⟨hpos, hdot⟩, hname, hbegins, blanks, rest, hopened, hblanks⟩
    obtain ⟨k, hk⟩ := Nat.exists_eq_succ_of_ne_zero (Nat.ne_of_gt hpos)
    rw [hk, Nat.succ_sub_one] at hdot
    obtain ⟨behind, hbehind⟩ := hname.occurs
    have htext : text = text.take k ++ '.' :: text.drop site.start := by
      rw [hk, Nat.succ_eq_add_one, ← drop_eq_cons hdot, List.take_append_drop]
    have hlength : (text.take k).length = k := by
      obtain ⟨hlt, -⟩ := List.getElem?_eq_some_iff.mp hdot
      exact List.length_take_of_le (Nat.le_of_lt hlt)
    refine ⟨text.take k, text.drop site.start, rest, htext, by rw [hk, hlength], hname.ne_nil, ?_,
      hbegins, blanks, ?_, hblanks⟩
    · intro c hc
      simpa using hname.plain c hc
    · rw [← List.drop_drop, ← hbehind, List.drop_left] at hopened
      rw [← hbehind, hopened]
  · rintro ⟨front, tail, rest, rfl, hstart, hne, hplain, hbegins, blanks, rfl, hblanks⟩
    have htext : front ++ '.' :: (site.name ++ (blanks ++ '(' :: rest)) =
        front ++ ['.'] ++ (site.name ++ (blanks ++ '(' :: rest)) := by simp
    have hplace : site.start = (front ++ ['.']).length := by
      rw [hstart, List.length_append, List.length_singleton]
    have hdot : isNameChar '.' = false := by decide
    have hbehind := head?_behind_name hblanks rest
    refine ⟨⟨by omega, ?_⟩, ?_, hbegins, blanks, rest, ?_, hblanks⟩
    · simp [hstart]
    · rw [htext, hplace]
      apply runAt_append hne
      · simpa using hplain
      · simpa using hdot
      · simpa using hbehind
    · rw [htext, hplace, ← List.drop_drop, List.drop_left, List.drop_left]

/-- The scan finds the method calls of a text, in the order of their places and each once, and a
search that goes on behind each call loses none of them. -/
theorem callSites_exact (text : List Char) :
    (callSites text).Pairwise (fun a b => a.start < b.start) ∧
    (∀ site, site ∈ callSites text ↔ IsCallSite text site) ∧
    matchedCalls text = callSites text := by
  refine ⟨callSitesFrom_ordered 0 text, ?_, allFrom_callPattern (by simp) 0⟩
  intro site
  rw [callSites, mem_callSitesFrom, isCallSite_iff]
  simp only [Nat.zero_add]

/-- A name without a parenthesis before a call, a number in it, and a call that goes over a line
end. -/
example : callSites ".a.b (.1c(.d\n(".toList = [⟨['b'], 3⟩, ⟨['d'], 11⟩] := by decide

end PatternServer.Document
