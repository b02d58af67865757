import PatternServer.Data.Toml.Document
import PatternServer.Proofs.JsonLimits

/-!
# What the limits of configuration files can stop

A file is malformed unless its text has more digits than a number may have, or more opening brackets
than there is room for. `Bounded` says this of each part of the reader, together with what every
part does to the text, which is to take something off its front.
-/

namespace PatternServer.Data.Toml

set_option autoImplicit false

open PatternServer.Number
open PatternServer.Data.Json (openings isOpening openings_le_of_suffix takeSign_suffix)

/-- How many digits there are in a text. -/
def digitCount (s : List Char) : Nat := s.countP Char.isDigit

theorem digitCount_le_of_suffix {s t : List Char} (h : t <:+ s) : digitCount t ≤ digitCount s :=
  h.sublist.countP_le

section
variable {α β : Type}

/-- What can come of reading from the front of `s` while there is some room. -/
structure Bounded (room : Nat) (s : List Char) (r : Attempt (α × List Char)) : Prop where
  rest : ∀ a t, r = .ok (a, t) → t <:+ s
  digits : r = .error .tooManyDigits → digitLimit < digitCount s
  depth : r = .error .tooDeep → room < tableRoom * openings s

namespace Bounded

variable {room : Nat} {s t : List Char}

theorem ok (a : α) (h : t <:+ s) : Bounded room s (.ok (a, t)) where
  rest := by
    rintro a' t' heq
    cases heq
    exact h
  digits := by simp
  depth := by simp

theorem malformed : Bounded room s (.error .malformed : Attempt (α × List Char)) where
  rest := by simp
  digits := by simp
  depth := by simp

theorem of_suffix {r : Attempt (α × List Char)} (h : Bounded room t r) (hts : t <:+ s) :
    Bounded room s r where
  rest := fun a t' heq => (h.rest a t' heq).trans hts
  digits := fun heq => Nat.lt_of_lt_of_le (h.digits heq) (digitCount_le_of_suffix hts)
  depth := fun heq =>
    Nat.lt_of_lt_of_le (h.depth heq) (Nat.mul_le_mul_left _ (openings_le_of_suffix hts))

theorem bind {r : Attempt (α × List Char)} {f : α × List Char → Attempt (β × List Char)}
    (h : Bounded room s r) (hf : ∀ a t, Bounded room t (f (a, t))) : Bounded room s (r >>= f) := by
  cases r with
  | error e =>
    refine ⟨?_, fun heq => h.digits ?_, fun heq => h.depth ?_⟩
    · intro a t heq
      cases heq
    · cases heq
      rfl
    · cases heq
      rfl
  | ok p => exact (hf p.1 p.2).of_suffix (h.rest p.1 p.2 rfl)

theorem map {r : Attempt (α × List Char)} (h : Bounded room s r) (f : α → β) :
    Bounded room s (r.map fun p => (f p.1, p.2)) := by
  have hbind := h.bind (f := fun p => .ok (f p.1, p.2)) fun a t => .ok _ List.suffix_rfl
  cases r <;> exact hbind

/-- What stands behind an opening bracket has less room. -/
theorem enter {c : Char} {size : Nat} {f : Nat → Attempt (α × List Char)}
    (hc : isOpening c = true) (hsize : size ≤ tableRoom) (hf : ∀ inner, Bounded inner s (f inner)) :
    Bounded room (c :: s) (takeRoom size room >>= f) := by
  have hopenings : openings (c :: s) = openings s + 1 := List.countP_cons_of_pos hc
  have hmul : tableRoom * openings (c :: s) = tableRoom * openings s + tableRoom := by
    rw [hopenings, Nat.mul_add, Nat.mul_one]
  unfold takeRoom
  by_cases hroom : room < size
  · rw [if_pos hroom]
    refine ⟨?_, ?_, ?_⟩
    · intro a t heq
      cases heq
    · intro heq
      cases heq
    · intro _
      omega
  · rw [if_neg hroom]
    have hinner := hf (room - size)
    refine ⟨?_, ?_, ?_⟩
    · intro a t heq
      exact (hinner.rest a t heq).trans (List.suffix_cons c s)
    · intro heq
      exact (hinner.of_suffix (List.suffix_cons c s)).digits heq
    · intro heq
      have hdepth := hinner.depth heq
      omega

end Bounded

end

/-! Strings. -/

theorem takeUntil?_suffix {delimiter s : List Char} {r : List Char × List Char}
    (h : takeUntil? delimiter s = some r) : r.2 <:+ s := by
  induction s generalizing r with
  | nil => cases h
  | cons c s ih =>
    rw [takeUntil?] at h
    split at h
    · cases h
      exact List.drop_suffix _ _
    · obtain ⟨r', hr', rfl⟩ := Option.map_eq_some_iff.mp h
      exact (ih hr').trans (List.suffix_cons c s)

theorem bounded_readLiteral (room : Nat) (delimiter : String) (illegal : Char → Bool)
    (s : List Char) : Bounded room s (readLiteral delimiter illegal s) := by
  unfold readLiteral
  split
  · rename_i r hr
    split
    · exact .malformed
    · exact .ok r.1 (takeUntil?_suffix hr)
  · exact .malformed

theorem bounded_readHexChar (room width : Nat) (s : List Char) :
    Bounded room s (readHexChar width s) := by
  unfold readHexChar
  simp only
  split
  · split
    · split
      · exact .ok _ (List.drop_suffix _ _)
      · exact .malformed
    · exact .malformed
  · exact .malformed

theorem bounded_readEscape (room : Nat) (lines : Bool) (s : List Char) :
    Bounded room s (readEscape lines s) := by
  unfold readEscape
  split
  · exact .malformed
  · rename_i c rest
    split
    · have hrest : (if c = '\n' then c :: rest else skipSpace rest) <:+ c :: rest := by
        split
        · exact List.suffix_rfl
        · exact (List.dropWhile_suffix _).trans (List.suffix_cons c rest)
      simp only
      split
      · exact .ok _ (List.nil_suffix)
      · rename_i tail htail
        rw [htail] at hrest
        exact .ok _ ((List.dropWhile_suffix _).trans ((List.suffix_cons _ tail).trans hrest))
      · exact .malformed
    · refine Bounded.of_suffix ?_ (List.suffix_cons c rest)
      split
      · exact (bounded_readHexChar room 4 rest).map fun c => [c]
      · split
        · exact (bounded_readHexChar room 8 rest).map fun c => [c]
        · split
          · exact .ok _ List.suffix_rfl
          · exact .malformed

theorem bounded_readBasic (room : Nat) (lines : Bool) (fuel : Nat) (s : List Char) :
    Bounded room s (readBasic lines fuel s) := by
  induction fuel generalizing s with
  | zero =>
    rw [readBasic]
    exact .malformed
  | succ fuel ih =>
    cases s with
    | nil =>
      rw [readBasic]
      exact .malformed
    | cons c rest =>
      rw [readBasic]
      split
      · split
        · split
          · exact .ok _ (List.drop_suffix _ _)
          · exact ((ih rest).map _).of_suffix (List.suffix_cons c rest)
        · exact .ok _ (List.suffix_cons c rest)
      · split
        · refine Bounded.of_suffix ?_ (List.suffix_cons c rest)
          have hbind := (bounded_readEscape room lines rest).bind
            (f := fun r => (readBasic lines fuel r.2).map fun p => (r.1 ++ p.1, p.2))
            fun front t => (ih t).map (front ++ ·)
          split
          · rename_i e he
            rw [he] at hbind
            exact hbind
          · rename_i front t ht
            rw [ht] at hbind
            exact hbind
        · have hplain := ((ih rest).map (c :: ·)).of_suffix (List.suffix_cons c rest)
          split
          · split
            · exact .malformed
            · exact hplain
          · split
            · exact .malformed
            · exact hplain

theorem takeExtraQuotes_suffix (q : Char) (body rest : List Char) :
    (takeExtraQuotes q body rest).2 <:+ rest := by
  unfold takeExtraQuotes
  split
  · split
    · exact List.suffix_append [_, _] _
    · split
      · exact List.suffix_cons _ _
      · exact List.suffix_rfl
  · split
    · exact List.nil_suffix
    · exact List.suffix_rfl
  · exact List.suffix_rfl

theorem bounded_readLines (room : Nat) (literal : Bool) (s : List Char) :
    Bounded room s (readLines literal s) := by
  have hquotes : ∀ (q : Char) {t : List Char} {r : Attempt (List Char × List Char)},
      Bounded room t r → Bounded room t (r.map fun r => takeExtraQuotes q r.1 r.2) := by
    intro q t r h
    have hbind := h.bind (f := fun r => .ok (takeExtraQuotes q r.1 r.2)) fun body rest =>
      .ok _ (takeExtraQuotes_suffix q body rest)
    cases r <;> exact hbind
  have hs : ∀ t, t <:+ s → Bounded room s
      (if literal then (readLiteral "'''" isIllegalInLines t).map
        fun r => takeExtraQuotes '\'' r.1 r.2
      else (readBasic true (t.length + 1) t).map fun r => takeExtraQuotes '"' r.1 r.2) := by
    intro t ht
    split
    · exact (hquotes _ (bounded_readLiteral room _ _ t)).of_suffix ht
    · exact (hquotes _ (bounded_readBasic room _ _ t)).of_suffix ht
  unfold readLines
  apply hs
  split
  · exact List.suffix_cons _ _
  · exact List.suffix_rfl

/-! Dates and times. -/

theorem fixedDigits?_suffix {width n : Nat} {s t : List Char}
    (h : fixedDigits? width s = some (n, t)) : t <:+ s := by
  simp only [fixedDigits?] at h
  split at h
  · cases h
    exact List.drop_suffix _ _
  · cases h

theorem twoDigits?_suffix {low high n : Nat} {s t : List Char}
    (h : twoDigits? low high s = some (n, t)) : t <:+ s :=
  fixedDigits?_suffix (Option.filter_eq_some_iff.mp h).1

theorem expect?_suffix {c : Char} {s t : List Char} (h : expect? c s = some t) : t <:+ s := by
  unfold expect? at h
  split at h
  · split at h
    · cases h
      exact List.suffix_cons _ _
    · cases h
  · cases h

theorem takeMicroseconds_suffix (s : List Char) : (takeMicroseconds s).2 <:+ s := by
  unfold takeMicroseconds
  split
  · split
    · exact List.suffix_rfl
    · exact (List.dropWhile_suffix _).trans (List.suffix_cons _ _)
  · exact List.suffix_rfl

theorem readTime?_suffix {time : ClockTime} {s t : List Char} (h : readTime? s = some (time, t)) :
    t <:+ s := by
  simp only [readTime?, Option.bind_eq_bind, Option.bind_eq_some_iff, Prod.exists] at h
  obtain ⟨_, s₁, h₁, s₂, h₂, _, s₃, h₃, s₄, h₄, _, s₅, h₅, heq⟩ := h
  cases heq
  exact (takeMicroseconds_suffix s₅).trans ((twoDigits?_suffix h₅).trans ((expect?_suffix h₄).trans
    ((twoDigits?_suffix h₃).trans ((expect?_suffix h₂).trans (twoDigits?_suffix h₁)))))

theorem readDay?_suffix {day : Day} {s t : List Char} (h : readDay? s = some (day, t)) :
    t <:+ s := by
  simp only [readDay?, Option.bind_eq_bind, Option.bind_eq_some_iff, Prod.exists] at h
  obtain ⟨_, s₁, h₁, s₂, h₂, _, s₃, h₃, s₄, h₄, _, s₅, h₅, heq⟩ := h
  cases heq
  exact (twoDigits?_suffix h₅).trans ((expect?_suffix h₄).trans
    ((twoDigits?_suffix h₃).trans ((expect?_suffix h₂).trans (fixedDigits?_suffix h₁))))

theorem readSignedOffset?_suffix {n : Int} {s t : List Char}
    (h : readSignedOffset? s = some (n, t)) : t <:+ s := by
  simp only [readSignedOffset?, Option.bind_eq_bind, Option.bind_eq_some_iff, Prod.exists] at h
  obtain ⟨_, _, _, s₁, h₁, s₂, h₂, _, s₃, h₃, heq⟩ := h
  cases heq
  exact (twoDigits?_suffix h₃).trans ((expect?_suffix h₂).trans
    ((twoDigits?_suffix h₁).trans (List.drop_suffix 1 s)))

theorem takeOffset_suffix (s : List Char) : (takeOffset s).2 <:+ s := by
  unfold takeOffset
  split
  · split
    · exact List.suffix_cons _ _
    · split
      · rename_i hoffset
        exact readSignedOffset?_suffix hoffset
      · exact List.suffix_rfl
  · exact List.suffix_rfl

theorem readTimeOfDay?_suffix {time : ClockTime} {s t : List Char}
    (h : readTimeOfDay? s = some (time, t)) : t <:+ s := by
  simp only [readTimeOfDay?, Option.bind_eq_bind, Option.bind_eq_some_iff] at h
  obtain ⟨c, _, h⟩ := h
  split at h
  · exact (readTime?_suffix h).trans (List.drop_suffix 1 s)
  · cases h

theorem bounded_readMoment? {room : Nat} {s : List Char} {r : Attempt (Moment × List Char)}
    (h : readMoment? s = some r) : Bounded room s r := by
  unfold readMoment? at h
  split at h
  · rename_i day rest hday
    cases h
    have hrest := readDay?_suffix hday
    split
    · split
      · rename_i time tail htime
        exact .ok _ ((takeOffset_suffix tail).trans ((readTimeOfDay?_suffix htime).trans hrest))
      · exact .ok _ hrest
    · exact .malformed
  · obtain ⟨⟨time, rest⟩, htime, rfl⟩ := Option.map_eq_some_iff.mp h
    exact .ok _ (readTime?_suffix htime)

/-! Numbers. -/

theorem digitTail_suffix (isDigit : Char → Bool) (s : List Char) :
    (digitTail isDigit s).2 <:+ s := by
  fun_induction digitTail isDigit s with
  | case1 c rest _ r ih => exact ih.trans (List.suffix_append ['_', c] rest)
  | case2 => exact List.suffix_rfl
  | case3 c rest _ _ r ih => exact ih.trans (List.suffix_cons c rest)
  | case4 => exact List.suffix_rfl
  | case5 => exact List.suffix_rfl

theorem digitTail_length_le (isDigit : Char → Bool) (s : List Char) :
    (digitTail isDigit s).1.length ≤ s.countP isDigit := by
  fun_induction digitTail isDigit s with
  | case1 c rest hc r ih =>
    have hcount : ('_' :: c :: rest).countP isDigit ≥ (c :: rest).countP isDigit :=
      (List.sublist_cons_self _ _).countP_le
    rw [List.countP_cons_of_pos hc] at hcount
    simp only [List.length_cons]
    exact Nat.le_trans (Nat.succ_le_succ ih) hcount
  | case2 => exact Nat.zero_le _
  | case3 c rest _ hc r ih =>
    rw [List.countP_cons_of_pos hc]
    exact Nat.succ_le_succ ih
  | case4 => exact Nat.zero_le _
  | case5 => exact Nat.zero_le _

theorem digitRun_suffix (isDigit : Char → Bool) (s : List Char) :
    (digitRun isDigit s).2 <:+ s := by
  unfold digitRun
  split
  · split
    · exact digitTail_suffix isDigit _
    · exact List.suffix_rfl
  · exact List.suffix_rfl

theorem digitRun_length_le (isDigit : Char → Bool) (s : List Char) :
    (digitRun isDigit s).1.length ≤ s.countP isDigit := by
  unfold digitRun
  split
  · split
    · exact digitTail_length_le isDigit _
    · exact Nat.zero_le _
  · exact Nat.zero_le _

theorem readPrefixed?_suffix {n : Int} {s t : List Char} (h : readPrefixed? s = some (n, t)) :
    t <:+ s := by
  unfold readPrefixed? at h
  split at h
  · rename_i c rest
    obtain ⟨⟨base, isDigit⟩, _, h⟩ := Option.bind_eq_some_iff.mp h
    have hrun := digitRun_suffix isDigit rest
    simp only at h
    split at h
    · cases h
    · rename_i ds tail heq
      rw [heq] at hrun
      cases h
      exact hrun.trans (List.suffix_cons c rest)
  · cases h

theorem wholePart_suffix (s : List Char) : (wholePart s).2 <:+ s := by
  unfold wholePart
  split
  · exact List.suffix_cons _ _
  · exact digitRun_suffix _ _

theorem wholePart_length_le (s : List Char) : (wholePart s).1.length ≤ digitCount s := by
  unfold wholePart
  split
  · rename_i rest
    rw [digitCount, List.countP_cons_of_pos (by decide)]
    exact Nat.succ_le_succ (Nat.zero_le _)
  · exact digitRun_length_le _ _

theorem fractionPart_suffix (s : List Char) : (fractionPart s).2 <:+ s := by
  unfold fractionPart
  split
  · rename_i rest
    have hrun := digitRun_suffix Char.isDigit rest
    split
    · exact List.suffix_rfl
    · rename_i ds tail heq
      rw [heq] at hrun
      exact hrun.trans (List.suffix_cons _ _)
  · exact List.suffix_rfl

theorem exponentPart_suffix (s : List Char) : (exponentPart s).2 <:+ s := by
  unfold exponentPart
  split
  · rename_i c rest
    split
    · have hrun := (digitRun_suffix Char.isDigit (takeSign rest).2).trans (takeSign_suffix rest)
      simp only
      split
      · exact List.suffix_rfl
      · rename_i ds tail heq
        rw [heq] at hrun
        exact hrun.trans (List.suffix_cons _ _)
    · exact List.suffix_rfl
  · exact List.suffix_rfl

theorem bounded_readDecimal? {room : Nat} {s : List Char} {r : Attempt (Value × List Char)}
    (h : readDecimal? s = some r) : Bounded room s r := by
  have hsign := takeSign_suffix s
  have hwhole := (wholePart_suffix (takeSign s).2).trans hsign
  have hlength := Nat.le_trans (wholePart_length_le (takeSign s).2) (digitCount_le_of_suffix hsign)
  simp only [readDecimal?] at h
  split at h
  · cases h
  · rename_i whole rest _ hpart
    rw [hpart] at hwhole hlength
    cases h
    split
    · split
      · rename_i hlong
        exact ⟨by simp, fun _ => Nat.lt_of_lt_of_le hlong hlength, by simp⟩
      · exact .ok _ hwhole
    · exact .ok _ ((exponentPart_suffix _).trans ((fractionPart_suffix rest).trans hwhole))

theorem bounded_readNumber? {room : Nat} {s : List Char} {r : Attempt (Value × List Char)}
    (h : readNumber? s = some r) : Bounded room s r := by
  unfold readNumber? at h
  split at h
  · split at h
    · rename_i n rest hprefixed
      cases h
      exact .ok _ ((readPrefixed?_suffix hprefixed).trans (List.suffix_cons _ _))
    · exact bounded_readDecimal? h
  · exact bounded_readDecimal? h

theorem readName?_suffix {names : List (String × Value)} {s : List Char} {r : Value × List Char}
    (h : readName? names s = some r) : r.2 <:+ s := by
  obtain ⟨name, _, hname⟩ := List.exists_of_findSome?_eq_some h
  split at hname
  · cases hname
    exact List.drop_suffix _ _
  · cases hname

theorem bounded_readScalar (room : Nat) (s : List Char) : Bounded room s (readScalar s) := by
  have htext : ∀ {t : List Char} {r : Attempt (List Char × List Char)}, t <:+ s →
      Bounded room t r → Bounded room s (r.map fun r => (Value.text (String.ofList r.1), r.2)) := by
    intro t r ht h
    exact (h.map fun cs => Value.text (String.ofList cs)).of_suffix ht
  unfold readScalar
  simp only
  split
  · exact htext (List.drop_suffix _ _) (bounded_readLines room _ _)
  · split
    · exact htext (List.drop_suffix _ _) (bounded_readBasic room _ _ _)
    · split
      · exact htext (List.drop_suffix _ _) (bounded_readLines room _ _)
      · split
        · exact htext (List.drop_suffix _ _) (bounded_readLiteral room _ _ _)
        · split
          · rename_i r hname
            exact .ok r.1 (readName?_suffix hname)
          · split
            · rename_i r hmoment
              exact (bounded_readMoment? hmoment).map Value.moment
            · split
              · rename_i r hnumber
                exact bounded_readNumber? hnumber
              · split
                · rename_i r hname
                  exact .ok r.1 (readName?_suffix hname)
                · exact .malformed

/-! Keys and what stands between values. -/

/-- Passing over something at the front of `s`. -/
def Passes (s : List Char) (r : Attempt (List Char)) : Prop :=
  (∃ t, r = .ok t ∧ t <:+ s) ∨ r = .error .malformed

theorem Passes.bind {α : Type} {room : Nat} {s : List Char} {r : Attempt (List Char)}
    {f : List Char → Attempt (α × List Char)} (h : Passes s r) (hf : ∀ t, Bounded room t (f t)) :
    Bounded room s (r >>= f) := by
  rcases h with ⟨t, rfl, ht⟩ | rfl
  · exact (hf t).of_suffix ht
  · exact .malformed

theorem passes_skipComment (s : List Char) : Passes s (skipComment s) := by
  unfold skipComment
  split
  · split
    · exact Or.inr rfl
    · exact Or.inl ⟨_, rfl, (List.dropWhile_suffix _).trans (List.suffix_cons _ _)⟩
  · exact Or.inl ⟨s, rfl, List.suffix_rfl⟩

theorem passes_skipFiller (fuel : Nat) (s : List Char) : Passes s (skipFiller fuel s) := by
  induction fuel generalizing s with
  | zero =>
    rw [skipFiller]
    exact Or.inl ⟨s, rfl, List.suffix_rfl⟩
  | succ fuel ih =>
    rw [skipFiller]
    rcases passes_skipComment (s.dropWhile isSpaceOrNewline) with ⟨t, ht, hsuffix⟩ | hmalformed
    · rw [ht]
      change Passes s (if t.length = s.length then .ok s else skipFiller fuel t)
      split
      · exact Or.inl ⟨s, rfl, List.suffix_rfl⟩
      · rcases ih t with ⟨t', ht', hsuffix'⟩ | hmalformed
        · exact Or.inl ⟨t', ht', hsuffix'.trans (hsuffix.trans (List.dropWhile_suffix _))⟩
        · exact Or.inr hmalformed
    · rw [hmalformed]
      exact Or.inr rfl

theorem skipSpace_suffix (s : List Char) : skipSpace s <:+ s := List.dropWhile_suffix _

theorem suffix_of_skipSpace {s rest : List Char} {c : Char} (h : skipSpace s = c :: rest) :
    rest <:+ s :=
  (List.suffix_cons c rest).trans (h ▸ skipSpace_suffix s)

theorem bounded_readKeyPart (room : Nat) (s : List Char) : Bounded room s (readKeyPart s) := by
  unfold readKeyPart
  split
  · exact .malformed
  · rename_i c rest
    simp only
    split
    · exact .ok _ (List.dropWhile_suffix _)
    · refine Bounded.of_suffix ?_ (List.suffix_cons c rest)
      split
      · exact (bounded_readLiteral room _ _ rest).map String.ofList
      · split
        · exact (bounded_readBasic room _ _ rest).map String.ofList
        · exact .malformed

theorem bounded_readKey (room fuel : Nat) (s : List Char) : Bounded room s (readKey fuel s) := by
  induction fuel generalizing s with
  | zero =>
    rw [readKey]
    exact .malformed
  | succ fuel ih =>
    rw [readKey]
    refine (bounded_readKeyPart room s).bind fun part t => ?_
    split
    · rename_i rest hrest
      refine Bounded.of_suffix ?_ ((skipSpace_suffix rest).trans (suffix_of_skipSpace hrest))
      exact (ih _).bind fun more t => .ok _ List.suffix_rfl
    · exact .ok _ (skipSpace_suffix t)

theorem bounded_readKeyAndEquals (room : Nat) (s : List Char) :
    Bounded room s (readKeyAndEquals s) := by
  unfold readKeyAndEquals
  refine (bounded_readKey room _ s).bind fun key t => ?_
  split
  · rename_i rest hrest
    change t = _ at hrest
    subst hrest
    exact .ok _ ((skipSpace_suffix rest).trans (List.suffix_cons _ rest))
  · exact .malformed

/-! Values. -/

/-- The three readers that call each other, by the fuel that they share. -/
theorem bounded_of_fuel (fuel : Nat) :
    (∀ room s, Bounded room s (readValue fuel room s)) ∧
    (∀ room s, Bounded room s (readItems fuel room s)) ∧
    ∀ room marks fields s, Bounded room s (readEntries fuel room marks fields s) := by
  induction fuel with
  | zero =>
    refine ⟨fun room s => ?_, fun room s => ?_, fun room marks fields s => ?_⟩
    · rw [readValue]
      exact .malformed
    · rw [readItems]
      exact .malformed
    · rw [readEntries]
      exact .malformed
  | succ fuel ih =>
    obtain ⟨hvalue, hitems, hentries⟩ := ih
    refine ⟨fun room s => ?_, fun room s => ?_, fun room marks fields s => ?_⟩
    · unfold readValue
      split
      · rename_i rest
        refine .enter rfl (by decide) fun inner => ?_
        refine (passes_skipFiller _ rest).bind fun t => ?_
        split
        · exact .ok _ (List.suffix_cons _ _)
        · exact (hitems inner t).bind fun items t => .ok _ List.suffix_rfl
      · rename_i rest
        refine .enter rfl (by decide) fun inner => ?_
        split
        · rename_i tail htail
          exact .ok _ (suffix_of_skipSpace htail)
        · refine Bounded.of_suffix ?_ (skipSpace_suffix rest)
          exact (hentries inner [] [] _).bind fun entries t => .ok _ List.suffix_rfl
      · exact bounded_readScalar room s
    · unfold readItems
      refine (hvalue room s).bind fun item t => ?_
      refine (passes_skipFiller _ t).bind fun t => ?_
      split
      · exact .ok _ (List.suffix_cons _ _)
      · rename_i rest
        refine Bounded.of_suffix ?_ (List.suffix_cons _ rest)
        refine (passes_skipFiller _ rest).bind fun t => ?_
        split
        · exact .ok _ (List.suffix_cons _ _)
        · exact (hitems room t).bind fun more t => .ok _ List.suffix_rfl
      · exact .malformed
    · unfold readEntries
      refine (bounded_readKeyAndEquals room s).bind fun key t => ?_
      refine (hvalue room t).bind fun value t => ?_
      by_cases hfrozen : isMarked marks key .frozen = true
      · simp only [if_pos hfrozen]
        exact .malformed
      · simp only [if_neg hfrozen]
        split
        · exact .malformed
        · split
          · rename_i rest hrest
            exact .ok _ (suffix_of_skipSpace hrest)
          · rename_i rest hrest
            exact (hentries room _ _ _).of_suffix
              ((skipSpace_suffix rest).trans (suffix_of_skipSpace hrest))
          · exact .malformed

/-! Statements. -/

/-- The limit that a text goes beyond if it is refused for this. -/
def Beyond (room : Nat) (s : List Char) : TomlError → Prop
  | .malformed => True
  | .tooManyDigits => digitLimit < digitCount s
  | .tooDeep => room < tableRoom * openings s

theorem Beyond.of_suffix {room : Nat} {s t : List Char} {e : TomlError} (h : Beyond room t e)
    (hts : t <:+ s) : Beyond room s e := by
  cases e with
  | malformed => trivial
  | tooManyDigits => exact Nat.lt_of_lt_of_le h (digitCount_le_of_suffix hts)
  | tooDeep => exact Nat.lt_of_lt_of_le h (Nat.mul_le_mul_left _ (openings_le_of_suffix hts))

end PatternServer.Data.Toml
