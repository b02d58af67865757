import Mathlib.Data.List.DropRight
import PatternServer.Data.Json
import PatternServer.Proofs.JsonLimits
import PatternServer.Proofs.Validation

/-!
# The grammar of JSON texts

What a JSON text spells is told by rules, each relating a text to what is left of it behind the
thing it begins with. The two limits of a dialect are part of the rules: every list and table that
is not empty uses up one of the levels that values may nest, and a number is not too long. Which
names there are is left open: the format has those of null and of the truth values, and the reader
knows those of the numbers that are not finite besides.

The reader follows the rules, and a text that they allow is never refused: neither the fuel of the
reader nor what it looks at beyond a value gets in the way.
-/

namespace PatternServer.Data.Json

set_option autoImplicit false

open PatternServer.Number PatternServer.Text
open PatternServer.Diagnostics (bind_eq_ok)

/-! The rules. -/

/-- White space at the front of `s`, not necessarily all of it, up to `t`. -/
def Blank (s t : List Char) : Prop :=
  ∃ w, s = w ++ t ∧ ∀ c ∈ w, isSpace c = true

def Digits (ds : List Char) : Prop :=
  ds ≠ [] ∧ ∀ c ∈ ds, c.isDigit = true

inductive Whole : List Char → Prop where
  | zero : Whole ['0']
  | digits {c : Char} {ds : List Char} (hne : c ≠ '0') (h : Digits (c :: ds)) : Whole (c :: ds)

inductive Fraction : (digits s t : List Char) → Prop where
  | absent {s : List Char} : Fraction [] s s
  | present {ds t : List Char} (h : Digits ds) : Fraction ds ('.' :: (ds ++ t)) t

inductive Sign : Bool → (s t : List Char) → Prop where
  | absent {s : List Char} : Sign false s s
  | plus {s : List Char} : Sign false ('+' :: s) s
  | minus {s : List Char} : Sign true ('-' :: s) s

def signed (negative : Bool) (digits : List Char) : Int :=
  if negative then -(decimalValue digits : Int) else decimalValue digits

inductive Exponent : Option Int → (s t : List Char) → Prop where
  | absent {s : List Char} : Exponent none s s
  | present {c : Char} {negative : Bool} {ds s t : List Char} (hc : c = 'e' ∨ c = 'E')
      (hsign : Sign negative s (ds ++ t)) (h : Digits ds) :
      Exponent (some (signed negative ds)) (c :: s) t

/-- A number without fraction and exponent is a whole number. -/
def numberValue (negative : Bool) (whole fraction : List Char) (exponent : Option Int) : Value :=
  if fraction.isEmpty && exponent.isNone then .int (signed negative whole)
  else
    .real (Double.ofDecimal negative (decimalValue (whole ++ fraction))
      (exponent.getD 0 - fraction.length))

/-- A number behind its sign. -/
inductive Number (dialect : JsonDialect) (negative : Bool) : Value → (s t : List Char) → Prop where
  | mk {whole fraction s₁ s₂ t : List Char} {exponent : Option Int} (hwhole : Whole whole)
      (hfraction : Fraction fraction s₁ s₂) (hexponent : Exponent exponent s₂ t)
      (hshort : isTooLong dialect negative (fraction.isEmpty && exponent.isNone) whole = false) :
      Number dialect negative (numberValue negative whole fraction exponent) (whole ++ s₁) t

/-- The code units of a string up to its closing quote. -/
inductive Units : List Nat → (s t : List Char) → Prop where
  | close {t : List Char} : Units [] ('"' :: t) t
  | code {a b c d : Char} {n : Nat} {units : List Nat} {s t : List Char}
      (hn : hexNumber? [a, b, c, d] = some n) (h : Units units s t) :
      Units (n :: units) ('\\' :: 'u' :: a :: b :: c :: d :: s) t
  | escape {e c : Char} {units : List Nat} {s t : List Char} (he : escaped? e = some c)
      (h : Units units s t) : Units (c.toNat :: units) ('\\' :: e :: s) t
  | plain {c : Char} {units : List Nat} {s t : List Char} (hquote : c ≠ '"') (hslash : c ≠ '\\')
      (hcontrol : 0x20 ≤ c.toNat) (h : Units units s t) : Units (c.toNat :: units) (c :: s) t

/-- A string behind its opening quote. -/
def Quoted (dialect : JsonDialect) (text : String) (s t : List Char) : Prop :=
  ∃ units cs, Units units s t ∧ joinUnits dialect units = some cs ∧ text = String.ofList cs

/-- What the rules are about: a value, the items of a list up to its end, or the entries of a table
up to its end. -/
inductive Phrase where
  | value (v : Value)
  | items (vs : List Value)
  | entries (es : List (String × Value))

/-- Entries written one after the other; of equal keys the last counts. -/
def putEntries (fields : List (String × Value)) (es : List (String × Value)) :
    List (String × Value) :=
  es.foldl (fun fields e => Value.insert e.1 e.2 fields) fields

inductive Spells (dialect : JsonDialect) (known : List (String × Value)) :
    Nat → Phrase → (s t : List Char) → Prop where
  | text {n : Nat} {text : String} {s t : List Char} (h : Quoted dialect text s t) :
      Spells dialect known n (.value (.text text)) ('"' :: s) t
  | emptyList {n : Nat} {s t : List Char} (h : Blank s (']' :: t)) :
      Spells dialect known n (.value (.list [])) ('[' :: s) t
  | list {n : Nat} {vs : List Value} {s t : List Char}
      (h : Spells dialect known n (.items vs) s t) :
      Spells dialect known (n + 1) (.value (.list vs)) ('[' :: s) t
  | emptyTable {n : Nat} {s t : List Char} (h : Blank s ('\x7d' :: t)) :
      Spells dialect known n (.value (.table [])) ('\x7b' :: s) t
  | table {n : Nat} {es : List (String × Value)} {s t : List Char}
      (h : Spells dialect known n (.entries es) s t) :
      Spells dialect known (n + 1) (.value (.table (putEntries [] es))) ('\x7b' :: s) t
  | name {n : Nat} {name : String} {v : Value} {t : List Char} (h : (name, v) ∈ known) :
      Spells dialect known n (.value v) (name.toList ++ t) t
  | number {n : Nat} {v : Value} {s t : List Char} (h : Number dialect false v s t) :
      Spells dialect known n (.value v) s t
  | negative {n : Nat} {v : Value} {s t : List Char} (h : Number dialect true v s t) :
      Spells dialect known n (.value v) ('-' :: s) t
  | lastItem {n : Nat} {v : Value} {s s₁ s₂ t : List Char} (hs : Blank s s₁)
      (hv : Spells dialect known n (.value v) s₁ s₂) (hend : Blank s₂ (']' :: t)) :
      Spells dialect known n (.items [v]) s t
  | item {n : Nat} {v : Value} {vs : List Value} {s s₁ s₂ s₃ t : List Char} (hs : Blank s s₁)
      (hv : Spells dialect known n (.value v) s₁ s₂) (hcomma : Blank s₂ (',' :: s₃))
      (hvs : Spells dialect known n (.items vs) s₃ t) :
      Spells dialect known n (.items (v :: vs)) s t
  | lastEntry {n : Nat} {key : String} {v : Value} {s s₁ s₂ s₃ s₄ s₅ t : List Char}
      (hs : Blank s ('"' :: s₁)) (hkey : Quoted dialect key s₁ s₂) (hcolon : Blank s₂ (':' :: s₃))
      (hs₃ : Blank s₃ s₄) (hv : Spells dialect known n (.value v) s₄ s₅)
      (hend : Blank s₅ ('\x7d' :: t)) : Spells dialect known n (.entries [(key, v)]) s t
  | entry {n : Nat} {key : String} {v : Value} {es : List (String × Value)}
      {s s₁ s₂ s₃ s₄ s₅ s₆ t : List Char} (hs : Blank s ('"' :: s₁))
      (hkey : Quoted dialect key s₁ s₂) (hcolon : Blank s₂ (':' :: s₃)) (hs₃ : Blank s₃ s₄)
      (hv : Spells dialect known n (.value v) s₄ s₅) (hcomma : Blank s₅ (',' :: s₆))
      (hes : Spells dialect known n (.entries es) s₆ t) :
      Spells dialect known n (.entries ((key, v) :: es)) s t

/-- A whole text that spells a value. -/
def Spelled (dialect : JsonDialect) (known : List (String × Value)) (s : List Char) (v : Value) :
    Prop :=
  ∃ s₁ t, Blank s s₁ ∧ Spells dialect known dialect.nesting (.value v) s₁ t ∧ Blank t []

/-- The names that the format itself has. Readers know more. -/
def formatNames : List (String × Value) :=
  [("null", .null), ("true", .bool true), ("false", .bool false)]

theorem formatNames_subset : formatNames ⊆ names := by
  simp [formatNames, names]

theorem Spells.mono {dialect : JsonDialect} {known known' : List (String × Value)}
    (hknown : known ⊆ known') {n : Nat} {phrase : Phrase} {s t : List Char}
    (h : Spells dialect known n phrase s t) : Spells dialect known' n phrase s t := by
  induction h with
  | text h => exact .text h
  | emptyList h => exact .emptyList h
  | list _ ih => exact .list ih
  | emptyTable h => exact .emptyTable h
  | table _ ih => exact .table ih
  | name h => exact .name (hknown h)
  | number h => exact .number h
  | negative h => exact .negative h
  | lastItem hs _ hend ih => exact .lastItem hs ih hend
  | item hs _ hcomma _ ih ihs => exact .item hs ih hcomma ihs
  | lastEntry hs hkey hcolon hs₃ _ hend ih => exact .lastEntry hs hkey hcolon hs₃ ih hend
  | entry hs hkey hcolon hs₃ _ hcomma _ ih ihs => exact .entry hs hkey hcolon hs₃ ih hcomma ihs

theorem Spelled.mono {dialect : JsonDialect} {known known' : List (String × Value)}
    (hknown : known ⊆ known') {s : List Char} {v : Value} (h : Spelled dialect known s v) :
    Spelled dialect known' s v := by
  obtain ⟨s₁, t, hs, hv, ht⟩ := h
  exact ⟨s₁, t, hs, hv.mono hknown, ht⟩

/-! White space. -/

theorem Blank.trans {s t u : List Char} (h : Blank s t) (h' : Blank t u) : Blank s u := by
  obtain ⟨w, rfl, hw⟩ := h
  obtain ⟨w', rfl, hw'⟩ := h'
  refine ⟨w ++ w', by rw [List.append_assoc], ?_⟩
  intro c hc
  rcases List.mem_append.mp hc with hc | hc
  · exact hw c hc
  · exact hw' c hc

theorem Blank.length_le {s t : List Char} (h : Blank s t) : t.length ≤ s.length := by
  obtain ⟨w, rfl, _⟩ := h
  simp

theorem blank_skipSpace (s : List Char) : Blank s (skipSpace s) :=
  ⟨s.takeWhile isSpace, List.takeWhile_append_dropWhile.symm,
    List.all_eq_true.mp List.all_takeWhile⟩

theorem blank_of_skipSpace {s t : List Char} (h : skipSpace s = t) : Blank s t :=
  h ▸ blank_skipSpace s

theorem skipSpace_of_blank {s t : List Char} {c : Char} (h : Blank s (c :: t))
    (hc : isSpace c = false) : skipSpace s = c :: t := by
  obtain ⟨w, rfl, hw⟩ := h
  rw [skipSpace, List.dropWhile_append_of_pos hw, List.dropWhile_cons_of_neg (by simp [hc])]

theorem skipSpace_of_blank_nil {s : List Char} (h : Blank s []) : skipSpace s = [] := by
  obtain ⟨w, rfl, hw⟩ := h
  rw [List.append_nil, skipSpace, List.dropWhile_eq_nil_iff]
  exact hw

/-- What may stand behind a value. -/
def Follows (t : List Char) : Prop :=
  ∀ c, t.head? = some c → isSpace c = true ∨ c = ',' ∨ c = ']' ∨ c = '\x7d'

theorem Blank.follows {s t : List Char} (h : Blank s t) (ht : Follows t) : Follows s := by
  obtain ⟨w, rfl, hw⟩ := h
  cases w with
  | nil => exact ht
  | cons c w =>
    intro d hd
    cases hd
    exact Or.inl (hw c List.mem_cons_self)

theorem follows_nil : Follows [] := by
  intro c hc
  cases hc

theorem follows_cons {c : Char} (hc : c = ',' ∨ c = ']' ∨ c = '\x7d') (t : List Char) :
    Follows (c :: t) := by
  intro d hd
  cases hd
  exact Or.inr hc

/-! Numbers. -/

/-- Behind these texts no digit can be added to a number. -/
def NoDigit (t : List Char) : Prop :=
  ∀ c, t.head? = some c → c.isDigit = false

theorem span_digits {ds t : List Char} (hds : ∀ c ∈ ds, c.isDigit = true) (ht : NoDigit t) :
    (ds ++ t).takeWhile Char.isDigit = ds ∧ (ds ++ t).dropWhile Char.isDigit = t := by
  have hstop : t.takeWhile Char.isDigit = [] ∧ t.dropWhile Char.isDigit = t := by
    cases t with
    | nil => exact ⟨rfl, rfl⟩
    | cons c t => simp [ht c rfl]
  rw [List.takeWhile_append_of_pos hds, List.dropWhile_append_of_pos hds, hstop.1, hstop.2]
  simp

theorem digits_takeWhile {s : List Char} (h : s.takeWhile Char.isDigit ≠ []) :
    Digits (s.takeWhile Char.isDigit) :=
  ⟨h, List.all_eq_true.mp List.all_takeWhile⟩

theorem fraction_takeFraction (s : List Char) :
    Fraction (takeFraction s).1 s (takeFraction s).2 := by
  unfold takeFraction
  split
  · rename_i rest
    split
    · exact .absent
    · rename_i ds hds
      have hpresent := Fraction.present (t := rest.dropWhile Char.isDigit) (digits_takeWhile hds)
      rwa [List.takeWhile_append_dropWhile] at hpresent
  · exact .absent

theorem sign_takeSign (s : List Char) : Sign (takeSign s).1 s (takeSign s).2 := by
  unfold takeSign
  split
  · exact .minus
  · exact .plus
  · exact .absent

theorem exponent_takeExponent (s : List Char) :
    Exponent (takeExponent s).1 s (takeExponent s).2 := by
  unfold takeExponent
  split
  · rename_i c rest
    split
    · rename_i hc
      simp only
      split
      · exact .absent
      · rename_i ds hds
        refine .present hc ?_ (digits_takeWhile hds)
        rw [List.takeWhile_append_dropWhile]
        exact sign_takeSign rest
    · exact .absent
  · exact .absent

/-- The digits of the whole part of a number, and the rest. -/
def takeWhole (s : List Char) : List Char × List Char :=
  match s with
  | '0' :: rest => (['0'], rest)
  | _ => (s.takeWhile Char.isDigit, s.dropWhile Char.isDigit)

theorem whole_takeWhole {s : List Char} (hne : (takeWhole s).1 ≠ []) :
    Whole (takeWhole s).1 ∧ (takeWhole s).1 ++ (takeWhole s).2 = s := by
  revert hne
  fun_cases takeWhole s with
  | case1 rest => exact fun _ => ⟨.zero, rfl⟩
  | case2 s hzero =>
    intro hne
    refine ⟨?_, List.takeWhile_append_dropWhile⟩
    obtain ⟨c, ds, hds⟩ := List.exists_cons_of_ne_nil hne
    have hdigits := digits_takeWhile hne
    simp only at hds ⊢
    rw [hds] at hdigits ⊢
    refine .digits ?_ hdigits
    rintro rfl
    obtain ⟨rest, hrest⟩ := hds ▸ List.takeWhile_prefix (l := s) Char.isDigit
    exact hzero _ hrest.symm

theorem takeWhole_of_whole {ds t : List Char} (h : Whole ds) (ht : NoDigit t) :
    takeWhole (ds ++ t) = (ds, t) := by
  cases h with
  | zero => rfl
  | digits hne hdigits =>
    obtain ⟨htake, hdrop⟩ := span_digits hdigits.2 ht
    unfold takeWhole
    split
    · rename_i heq
      cases heq
      exact absurd rfl hne
    · rw [htake, hdrop]

theorem readNumber_eq (dialect : JsonDialect) (negative : Bool) (s : List Char) :
    readNumber dialect negative s =
      let fraction := takeFraction (takeWhole s).2
      let exponent := takeExponent fraction.2
      if (takeWhole s).1.isEmpty then .error .malformed
      else if isTooLong dialect negative (fraction.1.isEmpty && exponent.1.isNone) (takeWhole s).1
        then .error .tooManyDigits
      else .ok (numberValue negative (takeWhole s).1 fraction.1 exponent.1, exponent.2) := by
  change (if (takeWhole s).1.isEmpty then _ else if isTooLong dialect negative
    ((takeFraction (takeWhole s).2).1.isEmpty &&
      (takeExponent (takeFraction (takeWhole s).2).2).1.isNone) (takeWhole s).1 then _
    else if (takeFraction (takeWhole s).2).1.isEmpty &&
      (takeExponent (takeFraction (takeWhole s).2).2).1.isNone then _ else _) = _
  unfold numberValue
  simp only
  split
  · rfl
  · split
    · rfl
    · split
      · rfl
      · rfl

theorem number_of_readNumber {dialect : JsonDialect} {negative : Bool} {s t : List Char} {v : Value}
    (h : readNumber dialect negative s = .ok (v, t)) : Number dialect negative v s t := by
  rw [readNumber_eq] at h
  simp only at h
  split at h
  · cases h
  · rename_i hne
    split at h
    · cases h
    · rename_i hshort
      cases h
      obtain ⟨hwhole, hsplit⟩ := whole_takeWhole (s := s) (by simpa using hne)
      have hnumber := Number.mk hwhole (fraction_takeFraction (takeWhole s).2)
        (exponent_takeExponent _) ((Bool.not_eq_true _).mp hshort)
      rwa [hsplit] at hnumber

theorem takeFraction_of_fraction {ds s t : List Char} (h : Fraction ds s t) (ht : NoDigit t)
    (hpoint : t.head? ≠ some '.') : takeFraction s = (ds, t) := by
  cases h with
  | absent =>
    unfold takeFraction
    split
    · simp at hpoint
    · rfl
  | present hds =>
    obtain ⟨htake, hdrop⟩ := span_digits hds.2 ht
    simp only [takeFraction, htake, hdrop]
    split
    · exact absurd rfl hds.1
    · rfl

theorem isDigit_ne_sign {c : Char} (h : c.isDigit = true) : c ≠ '-' ∧ c ≠ '+' := by
  constructor <;> rintro rfl <;> simp at h

theorem takeSign_of_sign {negative : Bool} {ds s t : List Char} (h : Sign negative s (ds ++ t))
    (hds : Digits ds) : takeSign s = (negative, ds ++ t) := by
  obtain ⟨hne, hdigits⟩ := hds
  obtain ⟨c, ds, rfl⟩ := List.exists_cons_of_ne_nil hne
  obtain ⟨hminus, hplus⟩ := isDigit_ne_sign (hdigits c List.mem_cons_self)
  cases h with
  | absent => simp [takeSign, hminus, hplus]
  | plus => rfl
  | minus => rfl

/-- Behind these texts nothing can be added to a number. -/
structure NumberEnd (t : List Char) : Prop where
  digit : NoDigit t
  point : t.head? ≠ some '.'
  exponent : t.head? ≠ some 'e' ∧ t.head? ≠ some 'E'

theorem Follows.numberEnd {t : List Char} (h : Follows t) : NumberEnd t := by
  have hhead : ∀ c, c.isDigit = true ∨ c = '.' ∨ c = 'e' ∨ c = 'E' → t.head? ≠ some c := by
    intro c hc hhead
    rcases h c hhead with hspace | rfl | rfl | rfl
    · simp only [isSpace, Bool.or_eq_true, beq_iff_eq] at hspace
      rcases hspace with ((rfl | rfl) | rfl) | rfl <;> revert hc <;> decide
    all_goals revert hc; decide
  refine ⟨?_, hhead '.' (by decide), hhead 'e' (by decide), hhead 'E' (by decide)⟩
  intro c hc
  by_contra hdigit
  exact hhead c (Or.inl (by simpa using hdigit)) hc

theorem takeExponent_of_exponent {e : Option Int} {s t : List Char} (h : Exponent e s t)
    (ht : NumberEnd t) : takeExponent s = (e, t) := by
  cases h with
  | absent =>
    cases s with
    | nil => rfl
    | cons c s =>
      have hc : ¬ (c = 'e' ∨ c = 'E') := by simpa using ht.exponent
      simp only [takeExponent, if_neg hc]
  | @present c negative ds s t hc hsign hds =>
    have hneg := takeSign_of_sign hsign hds
    obtain ⟨htake, hdrop⟩ := span_digits hds.2 ht.digit
    simp only [takeExponent, if_pos hc, hneg, htake, hdrop, signed]
    split
    · exact absurd rfl hds.1
    · rfl

/-- What stands behind the whole part of a number neither goes on with it nor, without a fraction,
begins one. -/
theorem Exponent.numberEnd {e : Option Int} {s t : List Char} (h : Exponent e s t)
    (ht : NumberEnd t) : NoDigit s ∧ s.head? ≠ some '.' := by
  cases h with
  | absent => exact ⟨ht.digit, ht.point⟩
  | present hc =>
    refine ⟨?_, ?_⟩
    · intro d hd
      cases hd
      rcases hc with rfl | rfl <;> rfl
    · rcases hc with rfl | rfl <;> simp

theorem Fraction.noDigit {ds s t : List Char} (h : Fraction ds s t) (ht : NoDigit t) :
    NoDigit s := by
  cases h with
  | absent => exact ht
  | present =>
    intro d hd
    cases hd
    rfl

theorem Whole.ne_nil {ds : List Char} (h : Whole ds) : ds ≠ [] := by
  cases h <;> simp

theorem readNumber_of_number {dialect : JsonDialect} {negative : Bool} {v : Value}
    {s t : List Char} (h : Number dialect negative v s t) (ht : NumberEnd t) :
    readNumber dialect negative s = .ok (v, t) := by
  obtain @⟨whole, fraction, s₁, s₂, _, exponent, hwhole, hfraction, hexponent, hshort⟩ := h
  obtain ⟨hdigit, hpoint⟩ := hexponent.numberEnd ht
  rw [readNumber_eq, takeWhole_of_whole hwhole (hfraction.noDigit hdigit)]
  simp only [takeFraction_of_fraction hfraction hdigit hpoint,
    takeExponent_of_exponent hexponent ht]
  rw [if_neg (by simpa using hwhole.ne_nil), if_neg (by simpa using hshort)]

/-! Strings. -/

theorem units_of_stringUnits {s t : List Char} {units : List Nat}
    (h : stringUnits s = some (units, t)) : Units units s t := by
  fun_induction stringUnits s generalizing units with
  | case1 => cases h
  | case2 rest =>
    cases h
    exact .close
  | case3 a b c d rest ih =>
    obtain ⟨n, hn, h⟩ := Option.bind_eq_some_iff.mp h
    obtain ⟨r, hr, heq⟩ := Option.map_eq_some_iff.mp h
    cases heq
    exact .code hn (ih hr)
  | case4 e rest _ ih =>
    obtain ⟨c, hc, h⟩ := Option.bind_eq_some_iff.mp h
    obtain ⟨r, hr, heq⟩ := Option.map_eq_some_iff.mp h
    cases heq
    exact .escape hc (ih hr)
  | case5 => cases h
  | case6 c rest hquote _ _ hplain ih =>
    obtain ⟨r, hr, heq⟩ := Option.map_eq_some_iff.mp h
    cases heq
    obtain ⟨hslash, hcontrol⟩ := not_or.mp hplain
    exact .plain (fun hc => hquote hc) hslash (Nat.not_lt.mp hcontrol) (ih hr)

theorem stringUnits_of_units {s t : List Char} {units : List Nat} (h : Units units s t) :
    stringUnits s = some (units, t) := by
  induction h with
  | close => rfl
  | code hn _ ih => simp [stringUnits, hn, ih]
  | @escape e c units s t he _ ih =>
    have hu : e ≠ 'u' := by
      rintro rfl
      cases he
    rw [stringUnits.eq_def]
    split
    · simp_all
    · simp_all
    · simp_all
    · rename_i heq
      cases heq
      simp [he, ih]
    · rename_i hnext heq
      cases heq
      exact (hnext e s rfl rfl).elim
  | @plain c units s t hquote hslash hcontrol _ ih =>
    rw [stringUnits.eq_def]
    split
    · simp_all
    · simp_all
    · simp_all
    · simp_all
    · rename_i heq
      cases heq
      rw [if_neg (not_or.mpr ⟨hslash, Nat.not_lt.mpr hcontrol⟩), ih]
      rfl

theorem readString_eq_ok_iff {dialect : JsonDialect} {s t : List Char} {text : String} :
    readString dialect s = .ok (text, t) ↔ Quoted dialect text s t := by
  unfold readString
  constructor
  · intro h
    split at h
    · rename_i cs rest hread
      cases h
      obtain ⟨⟨units, rest'⟩, hunits, hjoin⟩ := Option.bind_eq_some_iff.mp hread
      obtain ⟨cs', hcs, heq⟩ := Option.map_eq_some_iff.mp hjoin
      cases heq
      exact ⟨units, cs, units_of_stringUnits hunits, hcs, rfl⟩
    · cases h
  · rintro ⟨units, cs, hunits, hcs, rfl⟩
    simp [stringUnits_of_units hunits, hcs]

/-! What the reader takes follows the rules. -/

theorem readName?_split {s t : List Char} {v : Value} (h : readName? s = some (v, t)) :
    ∃ name, (name, v) ∈ names ∧ s = name.toList ++ t := by
  obtain ⟨name, hname, hafter⟩ := List.exists_of_findSome?_eq_some h
  obtain ⟨rest, hrest, heq⟩ := Option.map_eq_some_iff.mp hafter
  cases heq
  unfold after? at hrest
  split at hrest
  · rename_i hfront
    obtain ⟨rest', rfl⟩ := List.isPrefixOf_iff_prefix.mp hfront
    cases hrest
    exact ⟨name.1, hname, by rw [← String.length_toList, List.drop_left]⟩
  · cases hrest

theorem Spells.items_of_blank {dialect : JsonDialect} {n : Nat} {vs : List Value}
    {s s₁ t : List Char} (hs : Blank s s₁) (h : Spells dialect names n (.items vs) s₁ t) :
    Spells dialect names n (.items vs) s t := by
  cases h with
  | lastItem hs₁ hv hend => exact .lastItem (hs.trans hs₁) hv hend
  | item hs₁ hv hcomma hvs => exact .item (hs.trans hs₁) hv hcomma hvs

theorem Spells.entries_of_blank {dialect : JsonDialect} {n : Nat} {es : List (String × Value)}
    {s s₁ t : List Char} (hs : Blank s s₁) (h : Spells dialect names n (.entries es) s₁ t) :
    Spells dialect names n (.entries es) s t := by
  cases h with
  | lastEntry hs₁ hkey hcolon hs₃ hv hend =>
    exact .lastEntry (hs.trans hs₁) hkey hcolon hs₃ hv hend
  | entry hs₁ hkey hcolon hs₃ hv hcomma hes =>
    exact .entry (hs.trans hs₁) hkey hcolon hs₃ hv hcomma hes

/-- What the three readers that call each other find with some fuel follows the rules. -/
structure SoundWith (dialect : JsonDialect) (fuel : Nat) : Prop where
  value : ∀ {n s v t}, readValue dialect fuel n s = .ok (v, t) →
    Spells dialect names n (.value v) s t
  items : ∀ {n s vs t}, readItems dialect fuel n s = .ok (vs, t) →
    Spells dialect names n (.items vs) s t
  fields : ∀ {n fields s fields' t}, readFields dialect fuel n fields s = .ok (fields', t) →
    ∃ es, fields' = putEntries fields es ∧ Spells dialect names n (.entries es) s t

namespace SoundWith

variable {dialect : JsonDialect} {fuel : Nat}

theorem value_succ (ih : SoundWith dialect fuel) {n : Nat} {s : List Char} {v : Value}
    {t : List Char} (h : readValue dialect (fuel + 1) n s = .ok (v, t)) :
    Spells dialect names n (.value v) s t := by
  unfold readValue at h
  split at h
  · rename_i rest
    cases htext : readString dialect rest with
    | error e =>
      rw [htext] at h
      cases h
    | ok r =>
      rw [htext] at h
      cases h
      exact .text (readString_eq_ok_iff.mp htext)
  · rename_i rest
    split at h
    · rename_i tail htail
      cases h
      exact .emptyList (blank_of_skipSpace htail)
    · cases n with
      | zero => cases h
      | succ n =>
        obtain ⟨⟨vs, t'⟩, hvs, heq⟩ := bind_eq_ok (x := readItems dialect fuel n _) h
        cases heq
        exact .list ((ih.items hvs).items_of_blank (blank_skipSpace rest))
  · rename_i rest
    split at h
    · rename_i tail htail
      cases h
      exact .emptyTable (blank_of_skipSpace htail)
    · cases n with
      | zero => cases h
      | succ n =>
        obtain ⟨⟨fields, t'⟩, hread, heq⟩ := bind_eq_ok (x := readFields dialect fuel n _ _) h
        cases heq
        obtain ⟨es, rfl, hes⟩ := ih.fields hread
        exact .table (hes.entries_of_blank (blank_skipSpace rest))
  · split at h
    · rename_i hname
      cases h
      obtain ⟨name, hmem, rfl⟩ := readName?_split hname
      exact .name hmem
    · split at h
      · exact .negative (number_of_readNumber h)
      · exact .number (number_of_readNumber h)

theorem items_succ (ih : SoundWith dialect fuel) {n : Nat} {s : List Char} {vs : List Value}
    {t : List Char} (h : readItems dialect (fuel + 1) n s = .ok (vs, t)) :
    Spells dialect names n (.items vs) s t := by
  unfold readItems at h
  obtain ⟨⟨v, t₁⟩, hv, h⟩ := bind_eq_ok h
  split at h
  · rename_i rest hrest
    obtain ⟨⟨vs', t'⟩, hvs, heq⟩ := bind_eq_ok h
    cases heq
    exact .item (blank_skipSpace s) (ih.value hv) (blank_of_skipSpace hrest) (ih.items hvs)
  · rename_i rest hrest
    cases h
    exact .lastItem (blank_skipSpace s) (ih.value hv) (blank_of_skipSpace hrest)
  · cases h

theorem fields_succ (ih : SoundWith dialect fuel) {n : Nat} {fields : List (String × Value)}
    {s : List Char} {fields' : List (String × Value)} {t : List Char}
    (h : readFields dialect (fuel + 1) n fields s = .ok (fields', t)) :
    ∃ es, fields' = putEntries fields es ∧ Spells dialect names n (.entries es) s t := by
  unfold readFields at h
  split at h
  · rename_i rest hrest
    obtain ⟨⟨key, t₁⟩, hkey, h⟩ := bind_eq_ok h
    have hkey := readString_eq_ok_iff.mp hkey
    split at h
    · rename_i rest₁ hcolon
      obtain ⟨⟨v, t₂⟩, hv, h⟩ := bind_eq_ok h
      have hv := ih.value hv
      split at h
      · rename_i rest₂ hcomma
        obtain ⟨es, rfl, hes⟩ := ih.fields h
        exact ⟨(key, v) :: es, rfl, .entry (blank_of_skipSpace hrest) hkey
          (blank_of_skipSpace hcolon) (blank_skipSpace rest₁) hv (blank_of_skipSpace hcomma) hes⟩
      · rename_i rest₂ hend
        cases h
        exact ⟨[(key, v)], rfl, .lastEntry (blank_of_skipSpace hrest) hkey
          (blank_of_skipSpace hcolon) (blank_skipSpace rest₁) hv (blank_of_skipSpace hend)⟩
      · cases h
    · cases h
  · cases h

end SoundWith

theorem soundWith (dialect : JsonDialect) (fuel : Nat) : SoundWith dialect fuel := by
  induction fuel with
  | zero =>
    refine ⟨fun h => ?_, fun h => ?_, fun h => ?_⟩
    · rw [readValue] at h
      cases h
    · rw [readItems] at h
      cases h
    · rw [readFields] at h
      cases h
  | succ fuel ih => exact ⟨ih.value_succ, ih.items_succ, ih.fields_succ⟩

/-! What follows the rules is taken. -/

theorem Whole.starts {ds : List Char} (h : Whole ds) :
    ∃ c ds', ds = c :: ds' ∧ c.isDigit = true := by
  cases h with
  | zero => exact ⟨'0', [], rfl, rfl⟩
  | @digits c ds' _ hdigits => exact ⟨c, ds', rfl, hdigits.2 c List.mem_cons_self⟩

theorem Number.starts {dialect : JsonDialect} {negative : Bool} {v : Value} {s t : List Char}
    (h : Number dialect negative v s t) : ∃ c r, s = c :: r ∧ c.isDigit = true := by
  obtain ⟨hwhole, _, _, _⟩ := h
  obtain ⟨c, ds, rfl, hc⟩ := hwhole.starts
  exact ⟨c, _, rfl, hc⟩

theorem ne_of_isDigit {c d : Char} (hc : c.isDigit = true) (hd : d.isDigit = false) : c ≠ d := by
  rintro rfl
  rw [hc] at hd
  cases hd

/-- A name begins neither like a number nor with white space, nor in a way that ends a list. -/
theorem name_starts {name : String} {v : Value} (h : (name, v) ∈ names) :
    ∃ c r, name.toList = c :: r ∧ c.isDigit = false ∧ isSpace c = false ∧ c ≠ ']' ∧
      (c = '-' → r.head? = some 'I') := by
  simp only [names, List.mem_cons, Prod.mk.injEq, List.not_mem_nil, or_false] at h
  rcases h with ⟨rfl, _⟩ | ⟨rfl, _⟩ | ⟨rfl, _⟩ | ⟨rfl, _⟩ | ⟨rfl, _⟩ | ⟨rfl, _⟩ <;>
    exact ⟨_, _, rfl, by decide⟩

/-- A value does not begin with white space, nor in a way that ends a list. -/
theorem Spells.starts {dialect : JsonDialect} {n : Nat} {v : Value} {s t : List Char}
    (h : Spells dialect names n (.value v) s t) :
    ∃ c r, s = c :: r ∧ isSpace c = false ∧ c ≠ ']' := by
  cases h with
  | text => exact ⟨_, _, rfl, by decide, by decide⟩
  | emptyList => exact ⟨_, _, rfl, by decide, by decide⟩
  | list => exact ⟨_, _, rfl, by decide, by decide⟩
  | emptyTable => exact ⟨_, _, rfl, by decide, by decide⟩
  | table => exact ⟨_, _, rfl, by decide, by decide⟩
  | negative => exact ⟨_, _, rfl, by decide, by decide⟩
  | name hname =>
    obtain ⟨c, r, hsplit, _, hspace, hbracket, _⟩ := name_starts hname
    exact ⟨c, r ++ t, by rw [hsplit, List.cons_append], hspace, hbracket⟩
  | number hnumber =>
    obtain ⟨c, r, rfl, hc⟩ := hnumber.starts
    refine ⟨c, r, rfl, ?_, ne_of_isDigit hc rfl⟩
    simp [isSpace, ne_of_isDigit hc (d := ' ') rfl, ne_of_isDigit hc (d := '\t') rfl,
      ne_of_isDigit hc (d := '\n') rfl, ne_of_isDigit hc (d := '\r') rfl]

theorem Spells.skipSpace_eq {dialect : JsonDialect} {n : Nat} {v : Value} {s s₁ t : List Char}
    (h : Spells dialect names n (.value v) s₁ t) (hs : Blank s s₁) : skipSpace s = s₁ := by
  obtain ⟨c, r, rfl, hc, _⟩ := h.starts
  exact skipSpace_of_blank hs hc

/-- Items are not taken for the end of an empty list. -/
theorem Spells.items_start {dialect : JsonDialect} {n : Nat} {vs : List Value} {s t : List Char}
    (h : Spells dialect names n (.items vs) s t) : ∃ c r, skipSpace s = c :: r ∧ c ≠ ']' := by
  have hstart : ∀ {v s₁ s₂}, Blank s s₁ → Spells dialect names n (.value v) s₁ s₂ →
      ∃ c r, skipSpace s = c :: r ∧ c ≠ ']' := by
    intro v s₁ s₂ hs hv
    obtain ⟨c, r, rfl, hc, hbracket⟩ := hv.starts
    exact ⟨c, r, skipSpace_of_blank hs hc, hbracket⟩
  cases h with
  | lastItem hs hv => exact hstart hs hv
  | item hs hv => exact hstart hs hv

theorem Spells.entries_start {dialect : JsonDialect} {n : Nat} {es : List (String × Value)}
    {s t : List Char} (h : Spells dialect names n (.entries es) s t) :
    ∃ r, skipSpace s = '"' :: r := by
  cases h with
  | lastEntry hs => exact ⟨_, skipSpace_of_blank hs (by decide)⟩
  | entry hs => exact ⟨_, skipSpace_of_blank hs (by decide)⟩

theorem Fraction.length_le {ds s t : List Char} (h : Fraction ds s t) : t.length ≤ s.length := by
  cases h with
  | absent => exact Nat.le_refl _
  | present => simp; omega

theorem Sign.length_le {negative : Bool} {s t : List Char} (h : Sign negative s t) :
    t.length ≤ s.length := by
  cases h <;> simp

theorem Exponent.length_le {e : Option Int} {s t : List Char} (h : Exponent e s t) :
    t.length ≤ s.length := by
  cases h with
  | absent => exact Nat.le_refl _
  | present _ hsign =>
    have hlength := hsign.length_le
    rw [List.length_append] at hlength
    rw [List.length_cons]
    omega

theorem Number.length_lt {dialect : JsonDialect} {negative : Bool} {v : Value} {s t : List Char}
    (h : Number dialect negative v s t) : t.length < s.length := by
  obtain ⟨hwhole, hfraction, hexponent, _⟩ := h
  have hpos := List.length_pos_of_ne_nil hwhole.ne_nil
  have hfraction := hfraction.length_le
  have hexponent := hexponent.length_le
  rw [List.length_append]
  omega

theorem Units.length_lt {units : List Nat} {s t : List Char} (h : Units units s t) :
    t.length < s.length := by
  induction h with
  | close => simp
  | code _ _ ih => simp only [List.length_cons]; omega
  | escape _ _ ih => simp only [List.length_cons]; omega
  | plain _ _ _ _ ih => simp only [List.length_cons]; omega

theorem Quoted.length_lt {dialect : JsonDialect} {text : String} {s t : List Char}
    (h : Quoted dialect text s t) : t.length < s.length := by
  obtain ⟨units, cs, hunits, _⟩ := h
  exact hunits.length_lt

theorem Blank.length_lt {s t : List Char} {c : Char} (h : Blank s (c :: t)) :
    t.length < s.length :=
  h.length_le

theorem Spells.length_lt {dialect : JsonDialect} {n : Nat} {phrase : Phrase} {s t : List Char}
    (h : Spells dialect names n phrase s t) : t.length < s.length := by
  induction h with
  | text h => exact Nat.lt_succ_of_lt h.length_lt
  | emptyList h => exact Nat.lt_succ_of_lt h.length_lt
  | list _ ih => exact Nat.lt_succ_of_lt ih
  | emptyTable h => exact Nat.lt_succ_of_lt h.length_lt
  | table _ ih => exact Nat.lt_succ_of_lt ih
  | name h =>
    obtain ⟨c, r, hsplit, _⟩ := name_starts h
    rw [hsplit, List.length_append, List.length_cons]
    omega
  | number h => exact h.length_lt
  | negative h => exact Nat.lt_succ_of_lt h.length_lt
  | lastItem hs _ hend ih => exact hend.length_lt.trans (ih.trans_le hs.length_le)
  | item hs _ hcomma _ ih ihs =>
    exact ihs.trans (hcomma.length_lt.trans (ih.trans_le hs.length_le))
  | lastEntry hs hkey hcolon hs₃ _ hend ih =>
    have hkey := hkey.length_lt.trans hs.length_lt
    exact hend.length_lt.trans (ih.trans_le (hs₃.length_le.trans
      (hcolon.length_lt.trans hkey).le))
  | entry hs hkey hcolon hs₃ _ hcomma _ ih ihs =>
    have hkey := hkey.length_lt.trans hs.length_lt
    exact ihs.trans (hcomma.length_lt.trans (ih.trans_le (hs₃.length_le.trans
      (hcolon.length_lt.trans hkey).le)))

/-- No name is taken for a number, with its sign or without. -/
theorem readName?_digit {c : Char} (hc : c.isDigit = true) (r : List Char) :
    readName? (c :: r) = none ∧ readName? ('-' :: c :: r) = none := by
  refine ⟨Option.eq_none_iff_forall_ne_some.mpr ?_, Option.eq_none_iff_forall_ne_some.mpr ?_⟩
  · intro p hread
    obtain ⟨name, hname, hsplit⟩ := readName?_split hread
    obtain ⟨d, r', hd, hdigit, _⟩ := name_starts hname
    rw [hd] at hsplit
    cases hsplit
    exact ne_of_isDigit hc hdigit rfl
  · intro p hread
    obtain ⟨name, hname, hsplit⟩ := readName?_split hread
    obtain ⟨d, r', hd, _, _, _, hminus⟩ := name_starts hname
    rw [hd, List.cons_append, List.cons.injEq] at hsplit
    obtain ⟨rfl, hsplit⟩ := hsplit
    have hhead := hminus rfl
    cases r' with
    | nil => cases hhead
    | cons e r' =>
      cases hhead
      cases hsplit
      exact ne_of_isDigit (d := 'I') hc rfl rfl

theorem readValue_digit {c : Char} (hc : c.isDigit = true) (dialect : JsonDialect)
    (fuel n : Nat) (r : List Char) :
    readValue dialect (fuel + 1) n (c :: r) = readNumber dialect false (c :: r) := by
  rw [readValue, (readName?_digit hc r).1]
  all_goals
    rintro rest ⟨⟩
    cases hc

theorem readValue_minus_digit {c : Char} (hc : c.isDigit = true) (dialect : JsonDialect)
    (fuel n : Nat) (r : List Char) :
    readValue dialect (fuel + 1) n ('-' :: c :: r) = readNumber dialect true (c :: r) := by
  rw [readValue, (readName?_digit hc r).2]

theorem readItems_skipSpace (dialect : JsonDialect) (fuel n : Nat) (s : List Char) :
    readItems dialect fuel n (skipSpace s) = readItems dialect fuel n s := by
  cases fuel with
  | zero => rw [readItems, readItems]
  | succ fuel =>
    rw [readItems, readItems]
    unfold skipSpace
    rw [List.dropWhile_idempotent]

theorem readFields_skipSpace (dialect : JsonDialect) (fuel n : Nat)
    (fields : List (String × Value)) (s : List Char) :
    readFields dialect fuel n fields (skipSpace s) = readFields dialect fuel n fields s := by
  cases fuel with
  | zero => rw [readFields, readFields]
  | succ fuel =>
    rw [readFields, readFields]
    unfold skipSpace
    rw [List.dropWhile_idempotent]

theorem readValue_name {name : String} {v : Value} (h : (name, v) ∈ names) (dialect : JsonDialect)
    (fuel n : Nat) (t : List Char) :
    readValue dialect (fuel + 1) n (name.toList ++ t) = .ok (v, t) := by
  simp only [names, List.mem_cons, Prod.mk.injEq, List.not_mem_nil, or_false] at h
  rcases h with ⟨rfl, rfl⟩ | ⟨rfl, rfl⟩ | ⟨rfl, rfl⟩ | ⟨rfl, rfl⟩ | ⟨rfl, rfl⟩ | ⟨rfl, rfl⟩ <;> rfl

/-- The first item of a list, and what decides how the list goes on. -/
theorem readItems_step {dialect : JsonDialect} {fuel n : Nat} {v : Value} {s s₁ s₂ : List Char}
    (hs : skipSpace s = s₁) (hv : readValue dialect fuel n s₁ = .ok (v, s₂)) :
    readItems dialect (fuel + 1) n s =
      match skipSpace s₂ with
      | ',' :: rest => (readItems dialect fuel n rest).bind fun r => .ok (v :: r.1, r.2)
      | ']' :: rest => .ok ([v], rest)
      | _ => .error .malformed := by
  rw [readItems, hs, hv]
  rfl

/-- The first entry of a table, and what decides how the table goes on. -/
theorem readFields_step {dialect : JsonDialect} {fuel n : Nat} {key : String} {v : Value}
    {fields : List (String × Value)} {s s₁ s₂ s₃ s₄ s₅ : List Char}
    (hs : skipSpace s = '"' :: s₁) (hkey : readString dialect s₁ = .ok (key, s₂))
    (hcolon : skipSpace s₂ = ':' :: s₃) (hs₃ : skipSpace s₃ = s₄)
    (hv : readValue dialect fuel n s₄ = .ok (v, s₅)) :
    readFields dialect (fuel + 1) n fields s =
      match skipSpace s₅ with
      | ',' :: rest => readFields dialect fuel n (Value.insert key v fields) rest
      | '\x7d' :: rest => .ok (Value.insert key v fields, rest)
      | _ => .error .malformed := by
  simp only [readFields, hs, hkey, hcolon, hs₃, hv, bind, Except.bind]
  rfl

/-- The reader takes the phrase with this much fuel. -/
def TakenWith (dialect : JsonDialect) (fuel n : Nat) (s t : List Char) : Phrase → Prop
  | .value v => Follows t → readValue dialect fuel n s = .ok (v, t)
  | .items vs => readItems dialect fuel n s = .ok (vs, t)
  | .entries es => ∀ fields, readFields dialect fuel n fields s = .ok (putEntries fields es, t)

/-- A phrase is not empty, so that there is fuel for the first call. -/
theorem Spells.takenWith_of_succ {dialect : JsonDialect} {n : Nat} {phrase : Phrase}
    {s t : List Char} (h : Spells dialect names n phrase s t)
    (htaken : ∀ fuel, 2 * s.length ≤ fuel + 1 + 2 * t.length →
      TakenWith dialect (fuel + 1) n s t phrase) :
    ∀ fuel, 2 * s.length ≤ fuel + 2 * t.length → TakenWith dialect fuel n s t phrase := by
  intro fuel hfuel
  have hlt := h.length_lt
  obtain ⟨fuel, rfl⟩ := Nat.exists_eq_succ_of_ne_zero (show fuel ≠ 0 by omega)
  exact htaken fuel hfuel

theorem readValue_list {dialect : JsonDialect} {n fuel : Nat} {vs : List Value} {s t : List Char}
    (h : Spells dialect names n (.items vs) s t)
    (hread : readItems dialect fuel n s = .ok (vs, t)) :
    readValue dialect (fuel + 1) (n + 1) ('[' :: s) = .ok (.list vs, t) := by
  obtain ⟨c, r, hskip, hc⟩ := h.items_start
  rw [← readItems_skipSpace, hskip] at hread
  rw [readValue, hskip]
  split
  · rename_i heq
    cases heq
    exact absurd rfl hc
  · simp only [deeper, bind, Except.bind, hread]
    rfl

theorem readValue_table {dialect : JsonDialect} {n fuel : Nat} {es : List (String × Value)}
    {s t : List Char} (h : Spells dialect names n (.entries es) s t)
    (hread : readFields dialect fuel n [] s = .ok (putEntries [] es, t)) :
    readValue dialect (fuel + 1) (n + 1) ('\x7b' :: s) = .ok (.table (putEntries [] es), t) := by
  obtain ⟨r, hskip⟩ := h.entries_start
  rw [← readFields_skipSpace, hskip] at hread
  rw [readValue, hskip]
  split
  · rename_i heq
    cases heq
  · simp only [deeper, bind, Except.bind, hread]
    rfl

/-- Fuel is used up more slowly than text. -/
theorem Spells.taken {dialect : JsonDialect} {n : Nat} {phrase : Phrase} {s t : List Char}
    (h : Spells dialect names n phrase s t) :
    ∀ fuel, 2 * s.length ≤ fuel + 2 * t.length → TakenWith dialect fuel n s t phrase := by
  induction h with
  | text h =>
    refine takenWith_of_succ (.text h) fun fuel _ _ => ?_
    rw [readValue, readString_eq_ok_iff.mpr h]
    rfl
  | emptyList h =>
    refine takenWith_of_succ (.emptyList h) fun fuel _ _ => ?_
    simp only [readValue, skipSpace_of_blank h (by decide)]
  | list h ih =>
    refine takenWith_of_succ (.list h) fun fuel hfuel _ => ?_
    rw [List.length_cons] at hfuel
    exact readValue_list h (ih fuel (by omega))
  | emptyTable h =>
    refine takenWith_of_succ (.emptyTable h) fun fuel _ _ => ?_
    simp only [readValue, skipSpace_of_blank h (by decide)]
  | table h ih =>
    refine takenWith_of_succ (.table h) fun fuel hfuel _ => ?_
    rw [List.length_cons] at hfuel
    exact readValue_table h (ih fuel (by omega) [])
  | name h => exact takenWith_of_succ (.name h) fun fuel _ _ => readValue_name h _ _ _ _
  | number h =>
    refine takenWith_of_succ (.number h) fun fuel _ ht => ?_
    obtain ⟨c, r, rfl, hc⟩ := h.starts
    rw [readValue_digit hc]
    exact readNumber_of_number h ht.numberEnd
  | negative h =>
    refine takenWith_of_succ (.negative h) fun fuel _ ht => ?_
    obtain ⟨c, r, rfl, hc⟩ := h.starts
    rw [readValue_minus_digit hc]
    exact readNumber_of_number h ht.numberEnd
  | lastItem hs hv hend ih =>
    refine takenWith_of_succ (.lastItem hs hv hend) fun fuel hfuel => ?_
    have hs_le := hs.length_le
    have hend_lt := hend.length_lt
    have hread := ih fuel (by omega) (hend.follows (follows_cons (by decide) _))
    rw [TakenWith, readItems_step (hv.skipSpace_eq hs) hread,
      skipSpace_of_blank hend (by decide)]
    rfl
  | item hs hv hcomma hvs ih ihs =>
    refine takenWith_of_succ (.item hs hv hcomma hvs) fun fuel hfuel => ?_
    have hs_le := hs.length_le
    have hcomma_lt := hcomma.length_lt
    have hv_lt := hv.length_lt
    have hvs_lt := hvs.length_lt
    have hread := ih fuel (by omega) (hcomma.follows (follows_cons (by decide) _))
    have hreads : readItems _ _ _ _ = _ := ihs fuel (by omega)
    rw [TakenWith, readItems_step (hv.skipSpace_eq hs) hread,
      skipSpace_of_blank hcomma (by decide)]
    simp only [hreads]
    rfl
  | lastEntry hs hkey hcolon hs₃ hv hend ih =>
    refine takenWith_of_succ (.lastEntry hs hkey hcolon hs₃ hv hend) fun fuel hfuel fields => ?_
    have hfront := hkey.length_lt.trans hs.length_lt
    have hcolon_lt := hcolon.length_lt
    have hs₃_le := hs₃.length_le
    have hend_lt := hend.length_lt
    have hread := ih fuel (by omega) (hend.follows (follows_cons (by decide) _))
    rw [readFields_step (skipSpace_of_blank hs (by decide)) (readString_eq_ok_iff.mpr hkey)
      (skipSpace_of_blank hcolon (by decide)) (hv.skipSpace_eq hs₃) hread,
      skipSpace_of_blank hend (by decide)]
    rfl
  | entry hs hkey hcolon hs₃ hv hcomma hes ih ihs =>
    refine takenWith_of_succ (.entry hs hkey hcolon hs₃ hv hcomma hes) fun fuel hfuel fields => ?_
    have hfront := hkey.length_lt.trans hs.length_lt
    have hcolon_lt := hcolon.length_lt
    have hs₃_le := hs₃.length_le
    have hcomma_lt := hcomma.length_lt
    have hv_lt := hv.length_lt
    have hes_lt := hes.length_lt
    have hread := ih fuel (by omega) (hcomma.follows (follows_cons (by decide) _))
    rw [readFields_step (skipSpace_of_blank hs (by decide)) (readString_eq_ok_iff.mpr hkey)
      (skipSpace_of_blank hcolon (by decide)) (hv.skipSpace_eq hs₃) hread,
      skipSpace_of_blank hcomma (by decide)]
    exact ihs fuel (by omega) _

/-- The reader finds the values that texts spell and no others. -/
theorem read_eq_ok_iff (dialect : JsonDialect) (s : List Char) (v : Value) :
    read dialect s = .ok v ↔ Spelled dialect names s v := by
  constructor
  · intro h
    obtain ⟨⟨v', t⟩, hvalue, h⟩ := bind_eq_ok h
    split at h
    · rename_i hrest
      cases h
      refine ⟨skipSpace s, t, blank_skipSpace s, (soundWith dialect _).value hvalue, ?_⟩
      exact blank_of_skipSpace (List.isEmpty_iff.mp hrest)
    · cases h
  · rintro ⟨s₁, t, hs, hv, ht⟩
    have hs_le := hs.length_le
    have hread := hv.taken (2 * s.length + 2) (by omega) (ht.follows follows_nil)
    simp only [read, hv.skipSpace_eq hs, hread]
    change (if (skipSpace t).isEmpty then Except.ok v else _) = _
    rw [skipSpace_of_blank_nil ht]
    rfl

end PatternServer.Data.Json
