import PatternServer.Data.Json

/-!
# What the limits of the JSON reader can stop

A text that the loose reader does not take is malformed, or it goes beyond a limit: it has a longer
run of digits than a number may have, or more opening brackets than values may nest. `Bounded` says
this of each part of the reader, together with what every part does to the text, which is to take
something off its front.
-/

namespace PatternServer.Data.Json

set_option autoImplicit false

open PatternServer.Number PatternServer.Text

def isOpening (c : Char) : Bool := c == '[' || c == '\x7b'

def openings (s : List Char) : Nat := s.countP isOpening

/-- A run of more digits than a number may have. -/
def LongDigits (s : List Char) : Prop :=
  ∃ digits, digits <:+: s ∧ (∀ c ∈ digits, c.isDigit) ∧ digitLimit < digits.length

theorem openings_le_of_suffix {s t : List Char} (h : t <:+ s) : openings t ≤ openings s :=
  h.sublist.countP_le

theorem LongDigits.of_suffix {s t : List Char} (h : LongDigits t) (hts : t <:+ s) :
    LongDigits s := by
  obtain ⟨digits, hinfix, hdigits, hlong⟩ := h
  exact ⟨digits, hinfix.trans hts.isInfix, hdigits, hlong⟩

theorem skipSpace_suffix (s : List Char) : skipSpace s <:+ s := List.dropWhile_suffix _

theorem suffix_of_skipSpace {s rest : List Char} {c : Char} (h : skipSpace s = c :: rest) :
    rest <:+ s :=
  (List.suffix_cons c rest).trans (h ▸ skipSpace_suffix s)

section
variable {α β : Type}

/-- What can come of reading from the front of `s` while values may nest `nesting` deep. -/
structure Bounded (nesting : Nat) (s : List Char) (r : Except JsonError (α × List Char)) :
    Prop where
  rest : ∀ a t, r = .ok (a, t) → t <:+ s
  digits : r = .error .tooManyDigits → LongDigits s
  depth : r = .error .tooDeep → nesting < openings s

namespace Bounded

variable {nesting : Nat} {s t : List Char}

theorem ok (a : α) (h : t <:+ s) : Bounded nesting s (.ok (a, t)) where
  rest := by
    rintro a' t' heq
    cases heq
    exact h
  digits := by simp
  depth := by simp

theorem malformed : Bounded nesting s (.error .malformed : Except JsonError (α × List Char)) where
  rest := by simp
  digits := by simp
  depth := by simp

theorem of_suffix {r : Except JsonError (α × List Char)} (h : Bounded nesting t r)
    (hts : t <:+ s) : Bounded nesting s r where
  rest := fun a t' heq => (h.rest a t' heq).trans hts
  digits := fun heq => (h.digits heq).of_suffix hts
  depth := fun heq => Nat.lt_of_lt_of_le (h.depth heq) (openings_le_of_suffix hts)

theorem bind {r : Except JsonError (α × List Char)}
    {f : α × List Char → Except JsonError (β × List Char)} (h : Bounded nesting s r)
    (hf : ∀ a t, Bounded nesting t (f (a, t))) : Bounded nesting s (r >>= f) := by
  cases r with
  | error e =>
    refine ⟨?_, fun heq => h.digits ?_, fun heq => h.depth ?_⟩
    · intro a t heq
      cases heq
    · cases heq
      rfl
    · cases heq
      rfl
  | ok p => exact (hf p.1 p.2).of_suffix (h.rest p.1 p.2 rfl)

theorem map {r : Except JsonError (α × List Char)} (h : Bounded nesting s r) (f : α → β) :
    Bounded nesting s (r.map fun p => (f p.1, p.2)) := by
  have hbind := h.bind (f := fun p => .ok (f p.1, p.2)) fun a t => .ok _ List.suffix_rfl
  cases r <;> exact hbind

/-- What stands behind an opening bracket may nest one less deep. -/
theorem enter {c : Char} {f : Nat → Except JsonError (α × List Char)} (hc : isOpening c = true)
    (hts : t <:+ s) (hf : ∀ inner, Bounded inner t (f inner)) :
    Bounded nesting (c :: s) (deeper nesting >>= f) := by
  have hopenings : openings (c :: s) = openings s + 1 := List.countP_cons_of_pos hc
  have hle := openings_le_of_suffix hts
  cases nesting with
  | zero =>
    refine ⟨?_, ?_, ?_⟩
    · intro a t heq
      cases heq
    · intro heq
      cases heq
    · intro _
      omega
  | succ inner =>
    have hsuffix : t <:+ c :: s := hts.trans (List.suffix_cons c s)
    refine ⟨?_, ?_, ?_⟩
    · intro a t' heq
      exact ((hf inner).rest a t' heq).trans hsuffix
    · intro heq
      exact ((hf inner).digits heq).of_suffix hsuffix
    · intro heq
      have hdepth := (hf inner).depth heq
      omega

end Bounded

end

/-! Parts of values. -/

theorem stringUnits_suffix {s : List Char} {units : List Nat} {t : List Char}
    (h : stringUnits s = some (units, t)) : t <:+ s := by
  fun_induction stringUnits s generalizing units with
  | case1 => cases h
  | case2 rest =>
    cases h
    exact List.suffix_cons _ _
  | case3 a b c d rest ih =>
    obtain ⟨n, _, h⟩ := Option.bind_eq_some_iff.mp h
    obtain ⟨r, hr, heq⟩ := Option.map_eq_some_iff.mp h
    cases heq
    exact (ih hr).trans (List.suffix_append ['\\', 'u', a, b, c, d] rest)
  | case4 e rest _ ih =>
    obtain ⟨n, _, h⟩ := Option.bind_eq_some_iff.mp h
    obtain ⟨r, hr, heq⟩ := Option.map_eq_some_iff.mp h
    cases heq
    exact (ih hr).trans (List.suffix_append ['\\', e] rest)
  | case5 => cases h
  | case6 c rest _ _ _ _ ih =>
    obtain ⟨r, hr, heq⟩ := Option.map_eq_some_iff.mp h
    cases heq
    exact (ih hr).trans (List.suffix_cons c rest)

theorem bounded_readString (dialect : JsonDialect) (nesting : Nat) (s : List Char) :
    Bounded nesting s (readString dialect s) := by
  unfold readString
  split
  · rename_i cs rest h
    obtain ⟨r, hr, h⟩ := Option.bind_eq_some_iff.mp h
    obtain ⟨cs', _, heq⟩ := Option.map_eq_some_iff.mp h
    cases heq
    exact .ok _ (stringUnits_suffix hr)
  · exact .malformed

theorem takeFraction_suffix (s : List Char) : (takeFraction s).2 <:+ s := by
  unfold takeFraction
  split
  · rename_i rest
    split
    · exact List.suffix_rfl
    · exact (List.dropWhile_suffix _).trans (List.suffix_cons _ rest)
  · exact List.suffix_rfl

theorem takeSign_suffix (s : List Char) : (takeSign s).2 <:+ s := by
  unfold takeSign
  split
  · exact List.suffix_cons _ _
  · exact List.suffix_cons _ _
  · exact List.suffix_rfl

theorem takeExponent_suffix (s : List Char) : (takeExponent s).2 <:+ s := by
  unfold takeExponent
  split
  · rename_i c rest
    split
    · simp only
      split
      · exact List.suffix_rfl
      · exact ((List.dropWhile_suffix _).trans (takeSign_suffix rest)).trans
          (List.suffix_cons c rest)
    · exact List.suffix_rfl
  · exact List.suffix_rfl

theorem readName?_suffix {s t : List Char} {v : Value} (h : readName? s = some (v, t)) :
    t <:+ s := by
  obtain ⟨name, _, hname⟩ := List.exists_of_findSome?_eq_some h
  obtain ⟨rest, hrest, heq⟩ := Option.map_eq_some_iff.mp hname
  cases heq
  unfold after? at hrest
  split at hrest
  · cases hrest
    exact List.drop_suffix _ _
  · cases hrest

theorem bounded_readNumber (limit nesting : Nat) (negative : Bool) (s : List Char) :
    Bounded nesting s (readNumber (loose limit) negative s) := by
  -- The digits of the whole part stand at the front, and everything else is taken off behind them.
  have hwhole : ∀ whole : List Char × List Char, whole.1 ++ whole.2 = s →
      (∀ c ∈ whole.1, c.isDigit) → whole.2 <:+ s ∧
        (digitLimit < whole.1.length → LongDigits s) := by
    rintro ⟨digits, rest⟩ rfl hdigits
    exact ⟨List.suffix_append _ _, fun hlong =>
      ⟨digits, (List.prefix_append _ _).isInfix, hdigits, hlong⟩⟩
  unfold readNumber
  extract_lets whole fraction exponent isWhole size digits power
  obtain ⟨hrest, hlong⟩ : whole.2 <:+ s ∧ (digitLimit < whole.1.length → LongDigits s) := by
    apply hwhole
    · unfold whole
      split
      · rfl
      · exact List.takeWhile_append_dropWhile
    · unfold whole
      split
      · simp
      · exact List.all_eq_true.mp List.all_takeWhile
  have htail : exponent.2 <:+ s :=
    ((takeExponent_suffix _).trans (takeFraction_suffix _)).trans hrest
  split
  · exact .malformed
  · split
    · rename_i htoo
      refine ⟨by simp, fun _ => hlong ?_, by simp⟩
      simp only [isTooLong, loose, Bool.false_eq_true, if_false, Bool.and_eq_true,
        decide_eq_true_eq] at htoo
      exact htoo.2
    · split
      · exact .ok _ htail
      · exact .ok _ htail

/-! Values. -/

/-- The three readers that call each other, by the fuel that they share. -/
theorem bounded_of_fuel (limit fuel : Nat) :
    (∀ nesting s, Bounded nesting s (readValue (loose limit) fuel nesting s)) ∧
    (∀ nesting s, Bounded nesting s (readItems (loose limit) fuel nesting s)) ∧
    ∀ nesting fields s, Bounded nesting s (readFields (loose limit) fuel nesting fields s) := by
  induction fuel with
  | zero =>
    refine ⟨fun nesting s => ?_, fun nesting s => ?_, fun nesting fields s => ?_⟩
    · rw [readValue]
      exact .malformed
    · rw [readItems]
      exact .malformed
    · rw [readFields]
      exact .malformed
  | succ fuel ih =>
    obtain ⟨hvalue, hitems, hfields⟩ := ih
    refine ⟨fun nesting s => ?_, fun nesting s => ?_, fun nesting fields s => ?_⟩
    · unfold readValue
      split
      · rename_i rest
        refine Bounded.of_suffix ?_ (List.suffix_cons _ rest)
        exact (bounded_readString (loose limit) nesting rest).map _
      · rename_i rest
        split
        · rename_i tail htail
          exact .ok _ ((suffix_of_skipSpace htail).trans (List.suffix_cons _ rest))
        · exact .enter rfl (skipSpace_suffix rest) fun inner =>
            (hitems inner _).bind fun items t => .ok _ List.suffix_rfl
      · rename_i rest
        split
        · rename_i tail htail
          exact .ok _ ((suffix_of_skipSpace htail).trans (List.suffix_cons _ rest))
        · exact .enter rfl (skipSpace_suffix rest) fun inner =>
            (hfields inner [] _).bind fun fields t => .ok _ List.suffix_rfl
      · split
        · rename_i r hname
          exact .ok _ (readName?_suffix hname)
        · split
          · exact (bounded_readNumber limit nesting true _).of_suffix (List.suffix_cons _ _)
          · exact bounded_readNumber limit nesting false _
    · unfold readItems
      refine Bounded.of_suffix ?_ (skipSpace_suffix s)
      refine (hvalue nesting _).bind fun item t => ?_
      split
      · rename_i rest hrest
        refine Bounded.of_suffix ?_ (suffix_of_skipSpace hrest)
        exact (hitems nesting rest).bind fun items t => .ok _ List.suffix_rfl
      · rename_i rest hrest
        exact .ok _ (suffix_of_skipSpace hrest)
      · exact .malformed
    · unfold readFields
      split
      · rename_i rest hrest
        refine Bounded.of_suffix ?_ (suffix_of_skipSpace hrest)
        refine (bounded_readString (loose limit) nesting rest).bind fun key t => ?_
        split
        · rename_i rest hrest
          refine Bounded.of_suffix ?_ ((skipSpace_suffix rest).trans (suffix_of_skipSpace hrest))
          refine (hvalue nesting _).bind fun value t => ?_
          split
          · rename_i rest hrest
            exact (hfields nesting _ rest).of_suffix (suffix_of_skipSpace hrest)
          · rename_i rest hrest
            exact .ok _ (suffix_of_skipSpace hrest)
          · exact .malformed
        · exact .malformed
      · exact .malformed

/-- A text that the loose reader does not take is malformed unless it goes beyond a limit. -/
theorem read_loose_error {limit : Nat} {s : List Char} {e : JsonError}
    (h : read (loose limit) s = .error e) :
    e = .malformed ∨ e = .tooManyDigits ∧ LongDigits s ∨
      e = .tooDeep ∧ limit < openings s := by
  have hvalue := ((bounded_of_fuel limit (2 * s.length + 2)).1 (loose limit).nesting
    (skipSpace s)).of_suffix (skipSpace_suffix s)
  unfold read at h
  cases hread : readValue (loose limit) (2 * s.length + 2) (loose limit).nesting (skipSpace s) with
  | error e' =>
    rw [hread] at h hvalue
    cases h
    cases e with
    | malformed => exact Or.inl rfl
    | tooManyDigits => exact Or.inr (Or.inl ⟨rfl, hvalue.digits rfl⟩)
    | tooDeep => exact Or.inr (Or.inr ⟨rfl, hvalue.depth rfl⟩)
  | ok r =>
    rw [hread] at h
    change (if _ then _ else _) = _ at h
    split at h
    · cases h
    · cases h
      exact Or.inl rfl

/-- The limit on digits is met by the plainest of numbers. -/
theorem read_loose_ones {limit n : Nat} (h : digitLimit < n) :
    read (loose limit) (List.replicate n '1') = .error .tooManyDigits := by
  obtain ⟨n, rfl⟩ : ∃ m, n = m + 1 := ⟨n - 1, by omega⟩
  have hnumber :
      readNumber (loose limit) false (List.replicate (n + 1) '1') = .error .tooManyDigits := by
    have htake :
        (List.replicate (n + 1) '1').takeWhile Char.isDigit = List.replicate (n + 1) '1' := by
      simp
    have hdrop : (List.replicate (n + 1) '1').dropWhile Char.isDigit = [] := by simp
    unfold readNumber
    split
    · cases ‹_›
    · simp [htake, hdrop, takeFraction, takeExponent, isTooLong, loose, h]
  have hvalue : ∀ fuel, readValue (loose limit) (fuel + 1) (loose limit).nesting
      (List.replicate (n + 1) '1') = .error .tooManyDigits := by
    intro fuel
    rw [List.replicate_succ] at hnumber ⊢
    unfold readValue
    simp [readName?, names, after?, hnumber]
  have hskip : skipSpace (List.replicate (n + 1) '1') = List.replicate (n + 1) '1' := by
    simp [skipSpace, isSpace, List.replicate_succ]
  unfold read
  rw [hskip, hvalue]
  rfl

end PatternServer.Data.Json
