import Mathlib.Algebra.Group.Nat.Defs
import Mathlib.Data.List.TakeWhile
import PatternServer.Proofs.Validation

/-!
# Outcomes of parsing

What a parser says about a literal is always turned into an outcome, but for one thing: a report may
name a whole number that has too many digits to be written out or read. The numbers that matter are
those in what is shown of a located report, and the first line and column in the message of any
other.
-/

namespace PatternServer

set_option autoImplicit false

open PatternServer.Number PatternServer.Text

namespace Data.Value

/-- The whole numbers in what is shown of a value. -/
inductive Shows (n : Int) : Value → Prop where
  | int : Shows n (.int n)
  | item {items : List Value} {v : Value} (hv : v ∈ items) (h : Shows n v) : Shows n (.list items)
  | field {fields : List (String × Value)} {f : String × Value} (hf : f ∈ fields)
      (h : Shows n f.2) : Shows n (.table fields)

/-- A value with a number in it that has too many digits to be shown. -/
def Unshowable (v : Value) : Prop := ∃ n, v.Shows n ∧ 10 ^ digitLimit ≤ n.natAbs

theorem intChars?_eq_none_iff (n : Int) : intChars? n = none ↔ 10 ^ digitLimit ≤ n.natAbs := by
  have hlength := Nat.length_toDigits_le_iff (b := 10) (n := n.natAbs) (k := digitLimit)
    (by decide) (by decide)
  unfold intChars?
  split
  · rename_i hshort
    exact iff_of_false (by simp) (Nat.not_le.mpr (hlength.mp hshort))
  · rename_i hlong
    exact iff_of_true rfl (Nat.not_lt.mp (mt hlength.mpr hlong))

theorem quotedItems?_eq_none_iff (items : List Value) :
    quotedItems? items = none ↔ ∃ v ∈ items, quotedChars? v = none := by
  induction items with
  | nil => simp [quotedItems?]
  | cons v items ih =>
    rw [quotedItems?]
    cases hv : quotedChars? v with
    | none => simp [hv]
    | some shown => simp [hv, ih]

theorem quotedFields?_eq_none_iff (fields : List (String × Value)) :
    quotedFields? fields = none ↔ ∃ f ∈ fields, quotedChars? f.2 = none := by
  induction fields with
  | nil => simp [quotedFields?]
  | cons f fields ih =>
    obtain ⟨key, v⟩ := f
    rw [quotedFields?]
    cases hv : quotedChars? v with
    | none => simp [hv]
    | some shown => simp [hv, ih]

theorem sizeOf_lt_of_mem_list {items : List Value} {v : Value} (hv : v ∈ items) :
    sizeOf v < sizeOf (Value.list items) := by
  have hlt := List.sizeOf_lt_of_mem hv
  simp only [list.sizeOf_spec]
  omega

theorem sizeOf_lt_of_mem_table {fields : List (String × Value)} {f : String × Value}
    (hf : f ∈ fields) : sizeOf f.2 < sizeOf (Value.table fields) := by
  obtain ⟨key, v⟩ := f
  have hlt := List.sizeOf_lt_of_mem hf
  simp only [table.sizeOf_spec, Prod.mk.sizeOf_spec] at hlt ⊢
  omega

theorem quotedChars?_eq_none_iff (v : Value) : quotedChars? v = none ↔ v.Unshowable := by
  match v with
  | .int n =>
    rw [quotedChars?, intChars?_eq_none_iff]
    constructor
    · exact fun hlong => ⟨n, .int, hlong⟩
    · rintro ⟨m, ⟨⟩, hlong⟩
      exact hlong
  | .list items =>
    rw [quotedChars?, Option.map_eq_none_iff, quotedItems?_eq_none_iff]
    constructor
    · rintro ⟨v, hv, hnone⟩
      obtain ⟨n, hn, hlong⟩ := (quotedChars?_eq_none_iff v).mp hnone
      exact ⟨n, .item hv hn, hlong⟩
    · rintro ⟨n, @⟨⟩ | @⟨_, v, hv, hn⟩, hlong⟩
      exact ⟨v, hv, (quotedChars?_eq_none_iff v).mpr ⟨n, hn, hlong⟩⟩
  | .table fields =>
    rw [quotedChars?, Option.map_eq_none_iff, quotedFields?_eq_none_iff]
    constructor
    · rintro ⟨f, hf, hnone⟩
      obtain ⟨n, hn, hlong⟩ := (quotedChars?_eq_none_iff f.2).mp hnone
      exact ⟨n, .field hf hn, hlong⟩
    · rintro ⟨n, @⟨⟩ | @⟨⟩ | @⟨_, f, hf, hn⟩, hlong⟩
      exact ⟨f, hf, (quotedChars?_eq_none_iff f.2).mpr ⟨n, hn, hlong⟩⟩
  | .null | .bool _ | .real _ | .text _ | .moment _ =>
    refine iff_of_false (by simp [quotedChars?]) ?_
    rintro ⟨n, ⟨⟩, _⟩
termination_by sizeOf v
decreasing_by
  all_goals subst_vars
  · exact sizeOf_lt_of_mem_list hv
  · exact sizeOf_lt_of_mem_list hv
  · exact sizeOf_lt_of_mem_table hf
  · exact sizeOf_lt_of_mem_table hf

theorem display?_eq_none_iff (v : Value) : v.display? = none ↔ v.Unshowable := by
  rw [display?, Option.map_eq_none_iff, ← quotedChars?_eq_none_iff]
  unfold displayChars?
  split
  · simp [quotedChars?]
  · simp [quotedChars?]
  · exact Iff.rfl

end Data.Value

namespace Notation

open PatternServer.Data

/-- What is shown of an expectation. -/
def shownPart (item : Value) : Value :=
  match item with
  | .table fields =>
    match Value.lookup "type" fields, Value.lookup "text" fields with
    | some (.text "literal"), some text => text
    | _, _ =>
      match Value.lookup "description" fields with
      | some d => if d.isGiven then d else item
      | none => item
  | _ => item

theorem describeExpected?_eq_none_iff (item : Value) :
    describeExpected? item = none ↔ (shownPart item).Unshowable := by
  rw [← Value.display?_eq_none_iff]
  fun_cases describeExpected? item with
  | case1 fields text htext htype =>
    rw [shownPart, htype, htext]
    exact Option.map_eq_none_iff
  | case2 fields d hd hgiven hother =>
    simp only [shownPart, hd, if_pos hgiven]
  | case3 fields d hd hgiven hother =>
    simp only [shownPart, hd, if_neg hgiven]
  | case4 fields hnone hother =>
    simp only [shownPart, hnone]
  | case5 item hother =>
    simp only [shownPart]

/-! There is one way to fail, so it is enough to know when a computation does. -/

section
variable {α β : Type} {r : Except OutcomeError α} {P Q : Prop}

theorem exists_ok_of_ne (h : r ≠ .error .tooManyDigits) : ∃ a, r = .ok a := by
  cases r with
  | ok a => exact ⟨a, rfl⟩
  | error e => exact absurd rfl h

theorem map_fails_iff (f : α → β) :
    r.map f = .error .tooManyDigits ↔ r = .error .tooManyDigits := by
  cases r with
  | ok a => exact iff_of_false (fun h => by cases h) (fun h => by cases h)
  | error e => exact iff_of_true rfl rfl

theorem bind_fails_iff {f : α → Except OutcomeError β} (hr : r = .error .tooManyDigits ↔ P)
    (hf : ∀ a, f a = .error .tooManyDigits ↔ Q) :
    r >>= f = .error .tooManyDigits ↔ P ∨ Q := by
  cases r with
  | ok a =>
    have hP : ¬ P := fun h => by cases hr.mpr h
    exact (hf a).trans (or_iff_right hP).symm
  | error e => exact iff_of_true rfl (Or.inl (hr.mp rfl))

theorem pure_fails_iff {a : α} (hP : ¬ P) :
    (pure a : Except OutcomeError α) = .error .tooManyDigits ↔ P :=
  iff_of_false (fun h => by cases h) hP

end

theorem displayed_fails_iff (shown : Option String) :
    displayed shown = .error .tooManyDigits ↔ shown = none := by
  cases shown with
  | none => exact iff_of_true rfl rfl
  | some s => exact iff_of_false (fun h => by cases h) (by simp)

theorem boundedNumber_fails_iff (digits : List Char) :
    boundedNumber digits = .error .tooManyDigits ↔ digitLimit < digits.length := by
  unfold boundedNumber
  split
  · exact iff_of_true rfl ‹_›
  · exact pure_fails_iff ‹_›

theorem mapM_displayed_fails_iff (items : List Value) :
    (items.mapM fun i => displayed (describeExpected? i)) = .error .tooManyDigits ↔
      ∃ item ∈ items, (shownPart item).Unshowable := by
  induction items with
  | nil => exact pure_fails_iff (by simp)
  | cons item items ih =>
    have hitem := (displayed_fails_iff _).trans (describeExpected?_eq_none_iff item)
    rw [List.mapM_cons, bind_fails_iff hitem fun s => bind_fails_iff ih fun shown =>
      pure_fails_iff (P := False) id]
    simp

/-- A report that needs a number beyond the digit limit: one that is shown of it, if it is located,
or one that its message names as the place of the error. -/
inductive Overlong (report : SyntaxReport) : Prop where
  | expected {items : List Value} {item : Value} (hlocated : report.location.isGiven = true)
      (hitems : report.expected = some items) (hitem : item ∈ items)
      (hlong : (shownPart item).Unshowable) : Overlong report
  | found {v : Value} (hlocated : report.location.isGiven = true) (hfound : report.found = some v)
      (hlong : v.Unshowable) : Overlong report
  | line {line : List Char} {column : Option (List Char)}
      (hlocated : report.location.isGiven = false)
      (hnamed : findLineColumn? report.message.toList = some (line, column))
      (hlong : digitLimit < line.length) : Overlong report
  | column {line column : List Char} (hlocated : report.location.isGiven = false)
      (hnamed : findLineColumn? report.message.toList = some (line, some column))
      (hlong : digitLimit < column.length) : Overlong report

/-! A report with a location. -/

def shownExpected (report : SyntaxReport) : Except OutcomeError (Option (List String)) :=
  match report.expected with
  | some items => (items.mapM fun i => displayed (describeExpected? i)).map some
  | none => .ok none

def shownFound (report : SyntaxReport) : Except OutcomeError (Option String) :=
  match report.found with
  | none | some .null => .ok none
  | some v => (displayed v.display?).map some

theorem shownExpected_fails_iff (report : SyntaxReport) :
    shownExpected report = .error .tooManyDigits ↔
      ∃ items item, report.expected = some items ∧ item ∈ items ∧ (shownPart item).Unshowable := by
  unfold shownExpected
  split
  · rename_i items hitems
    rw [map_fails_iff, mapM_displayed_fails_iff, hitems]
    simp
  · rename_i hitems
    exact pure_fails_iff (by simp [hitems])

theorem shownFound_fails_iff (report : SyntaxReport) :
    shownFound report = .error .tooManyDigits ↔
      ∃ v, report.found = some v ∧ v.Unshowable := by
  unfold shownFound
  split
  · rename_i hfound
    exact pure_fails_iff (by simp [hfound])
  · rename_i hfound
    refine pure_fails_iff ?_
    rintro ⟨v, hv, n, hn, _⟩
    cases hfound.symm.trans hv
    cases hn
  · rename_i v _ hfound
    rw [map_fails_iff, displayed_fails_iff, Value.display?_eq_none_iff, hfound]
    simp

theorem failureOfReport_located (quoted : List Char) {report : SyntaxReport}
    (hlocated : report.location.isGiven = true) :
    failureOfReport quoted report = do
      let expected ← shownExpected report
      let found ← shownFound report
      return {
        message := if report.message.isEmpty then "Unknown parse error" else report.message
        span := spanOfLocation? report.location quoted
        expected := expected
        found := found
        hasFound := report.found.isSome
        parserRan := true } := by
  obtain ⟨message, location, expected, found⟩ := report
  have hlocated : location.isGiven = true := hlocated
  unfold failureOfReport shownExpected shownFound
  simp only [hlocated, if_true]
  cases expected <;> rcases found with _ | (_ | _) <;> rfl

theorem failureOfReport_fails_iff_of_located (quoted : List Char) {report : SyntaxReport}
    (hlocated : report.location.isGiven = true) :
    failureOfReport quoted report = .error .tooManyDigits ↔ Overlong report := by
  rw [failureOfReport_located quoted hlocated,
    bind_fails_iff (shownExpected_fails_iff report) fun expected =>
      bind_fails_iff (shownFound_fails_iff report) fun found => pure_fails_iff (P := False) id]
  constructor
  · rintro (⟨items, item, hitems, hitem, hlong⟩ | ⟨v, hfound, hlong⟩ | ⟨⟨⟩⟩)
    · exact .expected hlocated hitems hitem hlong
    · exact .found hlocated hfound hlong
  · intro h
    cases h with
    | expected _ hitems hitem hlong => exact Or.inl ⟨_, _, hitems, hitem, hlong⟩
    | found _ hfound hlong => exact Or.inr (Or.inl ⟨_, hfound, hlong⟩)
    | line hmissing => cases hmissing.symm.trans hlocated
    | column hmissing => cases hmissing.symm.trans hlocated

/-! A report without a location. -/

/-- The message that stands for none names no place. -/
theorem findLineColumn?_message (message : String) :
    findLineColumn? (if message.isEmpty then "Unknown parse error" else message).toList =
      findLineColumn? message.toList := by
  split
  · rename_i hempty
    rw [String.isEmpty_iff.mp hempty]
    decide
  · rfl

def namedColumn : Option (List Char) → Except OutcomeError Int
  | some column => boundedNumber column
  | none => .ok 1

theorem namedColumn_fails_iff (column : Option (List Char)) :
    namedColumn column = .error .tooManyDigits ↔
      ∃ digits, column = some digits ∧ digitLimit < digits.length := by
  cases column with
  | none => exact pure_fails_iff (by simp)
  | some digits => simp [namedColumn, boundedNumber_fails_iff]

theorem failureOfReport_named (quoted : List Char) {report : SyntaxReport} {line : List Char}
    {column : Option (List Char)} (hmissing : report.location.isGiven = false)
    (hnamed : findLineColumn? report.message.toList = some (line, column)) :
    failureOfReport quoted report = do
      let lineNumber ← boundedNumber line
      let columnNumber ← namedColumn column
      let start := lineColumnOffset quoted lineNumber columnNumber
      return {
        message := String.ofList (stripAnnouncement
          (if report.message.isEmpty then "Unknown parse error" else report.message).toList)
        span := some ⟨start, start + 1⟩
        expected := none
        found := none
        hasFound := false
        parserRan := true } := by
  unfold failureOfReport
  simp only [hmissing, Bool.false_eq_true, if_false, findLineColumn?_message, hnamed]
  cases column <;> rfl

theorem failureOfReport_unnamed (quoted : List Char) {report : SyntaxReport}
    (hmissing : report.location.isGiven = false)
    (hnamed : findLineColumn? report.message.toList = none) :
    failureOfReport quoted report = .ok {
      message := if report.message.isEmpty then "Unknown parse error" else report.message
      span := none
      expected := none
      found := none
      hasFound := false
      parserRan := true } := by
  unfold failureOfReport
  simp only [hmissing, Bool.false_eq_true, if_false, findLineColumn?_message, hnamed]
  rfl

theorem failureOfReport_fails_iff_of_unlocated (quoted : List Char) {report : SyntaxReport}
    (hmissing : report.location.isGiven = false) :
    failureOfReport quoted report = .error .tooManyDigits ↔ Overlong report := by
  cases hnamed : findLineColumn? report.message.toList with
  | none =>
    rw [failureOfReport_unnamed quoted hmissing hnamed]
    refine pure_fails_iff ?_
    intro h
    cases h with
    | expected hlocated => cases hmissing.symm.trans hlocated
    | found hlocated => cases hmissing.symm.trans hlocated
    | line _ h => cases hnamed.symm.trans h
    | column _ h => cases hnamed.symm.trans h
  | some place =>
    obtain ⟨line, column⟩ := place
    rw [failureOfReport_named quoted hmissing hnamed,
      bind_fails_iff (boundedNumber_fails_iff line) fun l =>
        bind_fails_iff (namedColumn_fails_iff column) fun c => pure_fails_iff (P := False) id]
    constructor
    · rintro (hlong | ⟨digits, rfl, hlong⟩ | ⟨⟨⟩⟩)
      · exact .line hmissing hnamed hlong
      · exact .column hmissing hnamed hlong
    · intro h
      cases h with
      | expected hlocated => cases hmissing.symm.trans hlocated
      | found hlocated => cases hmissing.symm.trans hlocated
      | line _ h hlong =>
        cases hnamed.symm.trans h
        exact Or.inl hlong
      | column _ h hlong =>
        cases hnamed.symm.trans h
        exact Or.inr (Or.inl ⟨_, rfl, hlong⟩)

theorem failureOfReport_fails_iff (quoted : List Char) (report : SyntaxReport) :
    failureOfReport quoted report = .error .tooManyDigits ↔ Overlong report := by
  cases hlocated : report.location.isGiven with
  | true => exact failureOfReport_fails_iff_of_located quoted hlocated
  | false => exact failureOfReport_fails_iff_of_unlocated quoted hlocated

/-! Every failure that comes of a report has a span from left to right. -/

def Span.Ordered (span : Span) : Prop := span.start ≤ span.stop

theorem spanOfLocation?_ordered {location : Value} {text : List Char} {span : Span}
    (h : spanOfLocation? location text = some span) : span.Ordered := by
  unfold spanOfLocation? at h
  split at h
  · obtain ⟨start, _, rfl⟩ := Option.map_eq_some_iff.mp h
    unfold Span.Ordered
    split
    · split <;> simp only <;> omega
    · simp only
      omega
  · cases h

theorem ordered_single (start : Int) : Span.Ordered ⟨start, start + 1⟩ := by
  unfold Span.Ordered
  simp only
  omega

theorem failureOfReport_regular {quoted : List Char} {report : SyntaxReport} {f : Failure}
    (h : failureOfReport quoted report = .ok f) :
    f.parserRan = true ∧ ∀ span, f.span = some span → span.Ordered := by
  cases hlocated : report.location.isGiven with
  | true =>
    rw [failureOfReport_located quoted hlocated] at h
    obtain ⟨expected, _, h⟩ := Diagnostics.bind_eq_ok h
    obtain ⟨found, _, h⟩ := Diagnostics.bind_eq_ok h
    cases h
    exact ⟨rfl, fun span hspan => spanOfLocation?_ordered hspan⟩
  | false =>
    cases hnamed : findLineColumn? report.message.toList with
    | none =>
      rw [failureOfReport_unnamed quoted hlocated hnamed] at h
      cases h
      exact ⟨rfl, fun span hspan => by cases hspan⟩
    | some place =>
      rw [failureOfReport_named quoted hlocated hnamed] at h
      obtain ⟨line, _, h⟩ := Diagnostics.bind_eq_ok h
      obtain ⟨column, _, h⟩ := Diagnostics.bind_eq_ok h
      cases h
      refine ⟨rfl, fun span hspan => ?_⟩
      cases hspan
      exact ordered_single _

/-! A number named in a message stands there digit by digit. -/

/-- A run of digits in `s`. -/
structure DigitRun (digits s : List Char) : Prop where
  within : digits <:+: s
  digit : ∀ c ∈ digits, isDecimalDigit c = true

theorem DigitRun.mono {digits s t : List Char} (h : DigitRun digits s) (hs : s <:+: t) :
    DigitRun digits t :=
  ⟨h.within.trans hs, h.digit⟩

theorem stripStart?_isSuffix {start : String} {s rest : List Char}
    (h : stripStart? start s = some rest) : rest <:+ s := by
  unfold stripStart? at h
  split at h
  · cases h
    exact List.drop_suffix _ s
  · cases h

theorem takeNumber?_run {s digits rest : List Char} (h : takeNumber? s = some (digits, rest)) :
    DigitRun digits s ∧ rest <:+ s := by
  unfold takeNumber? at h
  split at h
  · cases h
  · cases h
    refine ⟨⟨(List.takeWhile_prefix _).isInfix, fun c hc => ?_⟩, List.dropWhile_suffix _⟩
    exact List.mem_takeWhile_imp hc

theorem lineColumnAt?_runs {s line rest : List Char} {column : Option (List Char)}
    (h : lineColumnAt? s = some (line, column, rest)) :
    DigitRun line s ∧ ∀ digits, column = some digits → DigitRun digits s := by
  obtain ⟨t, ht, h⟩ := Option.bind_eq_some_iff.mp h
  obtain ⟨⟨line', rest'⟩, hline, h⟩ := Option.map_eq_some_iff.mp h
  have hwithin := (stripStart?_isSuffix ht).isInfix
  obtain ⟨hrun, hrest⟩ := takeNumber?_run hline
  dsimp only at h
  split at h
  · rename_i column' rest'' hcolumn
    cases h
    refine ⟨hrun.mono hwithin, fun digits hdigits => ?_⟩
    cases hdigits
    obtain ⟨u, hu, hnumber⟩ := Option.bind_eq_some_iff.mp hcolumn
    have hu' := (stripStart?_isSuffix hu).isInfix.trans (hrest.isInfix.trans hwithin)
    exact (takeNumber?_run hnumber).1.mono hu'
  · cases h
    exact ⟨hrun.mono hwithin, fun digits hdigits => by cases hdigits⟩

theorem findLineColumn?_runs {s line : List Char} {column : Option (List Char)}
    (h : findLineColumn? s = some (line, column)) :
    DigitRun line s ∧ ∀ digits, column = some digits → DigitRun digits s := by
  induction s with
  | nil => cases h
  | cons c s ih =>
    rw [findLineColumn?] at h
    split at h
    · rename_i line' column' rest hat
      cases h
      exact lineColumnAt?_runs hat
    · obtain ⟨hline, hcolumn⟩ := ih h
      have hs : s <:+: c :: s := (List.suffix_cons c s).isInfix
      exact ⟨hline.mono hs, fun digits hdigits => (hcolumn digits hdigits).mono hs⟩

theorem lookup_mem {key : String} {fields : List (String × Value)} {v : Value}
    (h : Value.lookup key fields = some v) : ∃ f ∈ fields, f.2 = v := by
  obtain ⟨f, hf, rfl⟩ := Option.map_eq_some_iff.mp h
  exact ⟨f, List.mem_of_find?_eq_some hf, rfl⟩

theorem unshowable_of_lookup {key : String} {fields : List (String × Value)} {v : Value}
    (h : Value.lookup key fields = some v) (hlong : v.Unshowable) :
    (Value.table fields).Unshowable := by
  obtain ⟨f, hf, rfl⟩ := lookup_mem h
  obtain ⟨n, hn, hlong⟩ := hlong
  exact ⟨n, .field hf hn, hlong⟩

theorem unshowable_of_shownPart {item : Value} (h : (shownPart item).Unshowable) :
    item.Unshowable := by
  unfold shownPart at h
  split at h
  · split at h
    · rename_i htext
      exact unshowable_of_lookup htext h
    · split at h
      · rename_i hdescription
        split at h
        · exact unshowable_of_lookup hdescription h
        · exact h
      · exact h
  · exact h

/-- A report with a number beyond the digit limit anywhere in it, needed or not. -/
def HasLongNumber (report : SyntaxReport) : Prop :=
  (∃ digits, DigitRun digits report.message.toList ∧ digitLimit < digits.length) ∨
    (∃ items item, report.expected = some items ∧ item ∈ items ∧ item.Unshowable) ∨
    ∃ v, report.found = some v ∧ v.Unshowable

theorem Overlong.hasLongNumber {report : SyntaxReport} (h : Overlong report) :
    HasLongNumber report := by
  cases h with
  | expected _ hitems hitem hlong =>
    exact Or.inr (Or.inl ⟨_, _, hitems, hitem, unshowable_of_shownPart hlong⟩)
  | found _ hfound hlong => exact Or.inr (Or.inr ⟨_, hfound, hlong⟩)
  | line _ hnamed hlong => exact Or.inl ⟨_, (findLineColumn?_runs hnamed).1, hlong⟩
  | column _ hnamed hlong => exact Or.inl ⟨_, (findLineColumn?_runs hnamed).2 _ rfl, hlong⟩

theorem findLineColumn?_digits {digits : List Char} (hne : digits ≠ [])
    (hdigits : ∀ c ∈ digits, isDecimalDigit c = true) :
    findLineColumn? ("line ".toList ++ digits) = some (digits, none) := by
  have htake : digits.takeWhile isDecimalDigit = digits := List.takeWhile_eq_self_iff.mpr hdigits
  have hdrop : digits.dropWhile isDecimalDigit = [] := List.dropWhile_eq_nil_iff.mpr hdigits
  have hnumber : takeNumber? digits = some (digits, []) := by
    unfold takeNumber?
    rw [htake, hdrop]
    split
    · exact absurd ‹_› hne
    · rfl
  have hstrip : stripStart? "line " ("line ".toList ++ digits) = some digits := rfl
  have hat : lineColumnAt? ("line ".toList ++ digits) = some (digits, none, []) := by
    rw [lineColumnAt?, hstrip, Option.bind_some, hnumber]
    rfl
  have hcons : "line ".toList ++ digits = 'l' :: ("ine ".toList ++ digits) := rfl
  rw [hcons] at hat ⊢
  rw [findLineColumn?, hat]

/-- What an outcome has to say of a parser's answer: the leaves, or a failure that tells a parser
that could not run from one that refused, with a span from left to right if any. -/
def Outcome.Fits : Except Refusal (List Leaf) → Outcome → Prop
  | .ok leaves, .success shown => shown = leaves
  | .error refusal, .failure f =>
    (f.parserRan = false ↔ ∃ message, refusal = .unavailable message) ∧
      ∀ span, f.span = some span → span.Ordered
  | _, _ => False

theorem outcomeOf_fails_iff (quoted : List Char) (answer : Except Refusal (List Leaf)) :
    outcomeOf quoted answer = .error .tooManyDigits ↔
      ∃ report, answer = .error (.syntaxError report) ∧ Overlong report := by
  match answer with
  | .ok leaves => exact pure_fails_iff (by simp)
  | .error (.unavailable message) => exact pure_fails_iff (by simp)
  | .error (.syntaxError report) => simp [outcomeOf, map_fails_iff, failureOfReport_fails_iff]

theorem outcomeOf_fits {quoted : List Char} {answer : Except Refusal (List Leaf)}
    {outcome : Outcome} (h : outcomeOf quoted answer = .ok outcome) : outcome.Fits answer := by
  match answer with
  | .ok leaves =>
    cases h
    exact rfl
  | .error (.unavailable message) =>
    cases h
    exact ⟨iff_of_true rfl ⟨message, rfl⟩, fun span hspan => by cases hspan⟩
  | .error (.syntaxError report) =>
    cases hf : failureOfReport quoted report with
    | error e =>
      rw [outcomeOf, hf] at h
      cases h
    | ok f =>
      rw [outcomeOf, hf] at h
      cases h
      obtain ⟨hran, hspan⟩ := failureOfReport_regular hf
      exact ⟨iff_of_false (by simp [hran]) (by simp), hspan⟩

end Notation

namespace Diagnostics

open PatternServer.Notation

theorem parseWith_fails_iff (parser : List Char → Except Refusal (List Leaf))
    (body : List Char) :
    parseWith parser body = .error .tooManyDigits ↔
      ∃ report, parser (quoteBody body) = .error (.syntaxError report) ∧ Overlong report :=
  outcomeOf_fails_iff (quoteBody body) (parser (quoteBody body))

/-- Parsing a literal has an outcome, and one that fits the parser's answer, unless the parser
reports an error that needs a number beyond the digit limit. A report without such a number anywhere
always has one. -/
theorem parseWith_returns_iff (parser : List Char → Except Refusal (List Leaf))
    (body : List Char) :
    ((∃ outcome, parseWith parser body = .ok outcome ∧ outcome.Fits (parser (quoteBody body))) ↔
      ∀ report, parser (quoteBody body) = .error (.syntaxError report) → ¬ Overlong report) ∧
    (parseWith parser body = .error .tooManyDigits ↔
      ∃ report, parser (quoteBody body) = .error (.syntaxError report) ∧ Overlong report) ∧
    ((∀ report, parser (quoteBody body) = .error (.syntaxError report) →
        ¬ HasLongNumber report) →
      ∃ outcome, parseWith parser body = .ok outcome ∧
        outcome.Fits (parser (quoteBody body))) := by
  have hfails := parseWith_fails_iff parser body
  have hreturns : (∀ report, parser (quoteBody body) = .error (.syntaxError report) →
      ¬ Overlong report) → ∃ outcome, parseWith parser body = .ok outcome ∧
        outcome.Fits (parser (quoteBody body)) := by
    intro hshort
    obtain ⟨outcome, hok⟩ := exists_ok_of_ne (r := parseWith parser body) fun h =>
      have ⟨report, hanswer, hlong⟩ := hfails.mp h
      hshort report hanswer hlong
    exact ⟨outcome, hok, outcomeOf_fits hok⟩
  refine ⟨⟨?_, hreturns⟩, hfails, fun hshort => ?_⟩
  · rintro ⟨outcome, hok, _⟩ report hanswer hlong
    cases hok.symm.trans (hfails.mpr ⟨report, hanswer, hlong⟩)
  · exact hreturns fun report hanswer hlong => hshort report hanswer hlong.hasLongNumber

/-- A parser that complains about a line whose number has one digit too many. -/
theorem parseWith_long_line_number :
    let message := String.ofList ("line ".toList ++ List.replicate (digitLimit + 1) '1')
    parseWith (fun _ => .error (.syntaxError (.ofMessage message))) "bd".toList =
      .error .tooManyDigits := by
  intro message
  have hone : ∀ c ∈ List.replicate (digitLimit + 1) '1', isDecimalDigit c = true := by
    intro c hc
    rw [List.eq_of_mem_replicate hc]
    decide
  have hne : List.replicate (digitLimit + 1) '1' ≠ [] := List.replicate_succ_ne_nil
  have hnamed : findLineColumn? message.toList =
      some (List.replicate (digitLimit + 1) '1', none) := by
    rw [String.toList_ofList]
    exact findLineColumn?_digits hne hone
  have hlong : Overlong (.ofMessage message) := by
    refine .line rfl hnamed ?_
    rw [List.length_replicate]
    exact Nat.lt_succ_self digitLimit
  exact (parseWith_fails_iff _ _).mpr ⟨_, rfl, hlong⟩

end Diagnostics

end PatternServer
