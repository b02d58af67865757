import PatternServer.Notation.Brackets
import PatternServer.Proofs.LineColumns
import PatternServer.Proofs.ParseOutcomes

/-!
# Locations by offset and by line

A point of a location gives its offset, or else a line and a column. Both lead to the same place:
the line is found by walking from line feed to line feed, and the column is counted from there. A
line behind the last stops the walk early, and numbers below one count as one.

Whatever the numbers in a location are, its span does not run backwards.
-/

namespace PatternServer.Notation

set_option autoImplicit false

open PatternServer.Data PatternServer.Document

/-- Walks over so many line feeds from an offset on, or as many as there are. -/
def lineWalk (text : List Char) : (count offset : Nat) → Nat
  | 0, offset => offset
  | count + 1, offset =>
    match (text.drop offset).idxOf? '\n' with
    | none => offset
    | some ahead => lineWalk text count (offset + ahead + 1)

/-- A point that tells an offset of a text: by the offset, or without one by the line and the column
of the offset, which begin at one. -/
inductive Marks (text : List Char) (offset : Nat) : Value → Prop where
  | byOffset {fields : List (String × Value)}
      (h : Value.lookup "offset" fields = some (.int offset)) : Marks text offset (.table fields)
  | byLine {fields : List (String × Value)}
      (hoffset : ∀ n, Value.lookup "offset" fields ≠ some (.int n))
      (hline : Value.lookup "line" fields = some (.int (1 + (text.take offset).count '\n')))
      (hcolumn : Value.lookup "column" fields =
        some (.int (1 + (lastLine (text.take offset)).length))) :
      Marks text offset (.table fields)

/-- A location whose two points tell two offsets of a text, each in its own way. -/
def MarksSpan (text : List Char) (start stop : Nat) (location : Value) : Prop :=
  (∃ p, location.get? "start" = some p ∧ Marks text start p) ∧
    ∃ p, location.get? "end" = some p ∧ Marks text stop p

/-! The walk over lines. -/

theorem lineWalk_stops {text : List Char} {offset : Nat} (h : '\n' ∉ text.drop offset)
    (count : Nat) : lineWalk text count offset = offset := by
  cases count with
  | zero => rfl
  | succ count =>
    have hnone : (text.drop offset).idxOf? '\n' = none := by simpa using h
    rw [lineWalk, hnone]

theorem lineWalk_feed {whole columns : List Char} (h : '\n' ∉ columns) (behind : List Char)
    (count : Nat) :
    lineWalk (whole ++ (columns ++ '\n' :: behind)) (count + 1) whole.length =
      lineWalk (whole ++ (columns ++ '\n' :: behind)) count
        (whole ++ (columns ++ ['\n'])).length := by
  have hahead : (columns ++ '\n' :: behind).idxOf? '\n' = some columns.length := by
    have hnone : columns.findIdx? (· == '\n') = none := List.idxOf?_eq_none_iff.mpr h
    rw [List.idxOf?, List.findIdx?_append, hnone, List.findIdx?_cons]
    simp
  rw [lineWalk, List.drop_left, hahead]
  simp only [List.length_append, List.length_singleton, Nat.add_assoc]

theorem lineStart?_feed {columns : List Char} (h : '\n' ∉ columns) (behind : List Char) (n : Nat) :
    lineStart? (columns ++ '\n' :: behind) (n + 1) =
      (lineStart? behind n).map (columns.length + 1 + ·) := by
  induction columns with
  | nil => simp [lineStart?, Nat.add_comm]
  | cons c columns ih =>
    obtain ⟨hc, hcolumns⟩ := List.ne_and_not_mem_of_not_mem_cons h
    rw [List.cons_append, lineStart?, if_neg hc.symm, ih hcolumns, Option.map_map]
    congr 1
    funext start
    simp only [Function.comp_apply, List.length_cons]
    omega

/-- From the front of a line, the walk over so many lines comes to the front of the last of them, or
of the last line of the text. -/
theorem exists_lineWalk (count : Nat) (whole rest : List Char) :
    ∃ start, lineStart? rest (min count (rest.count '\n')) = some start ∧
      lineWalk (whole ++ rest) count whole.length = whole.length + start := by
  induction count generalizing whole rest with
  | zero => exact ⟨0, by simp [lineStart?], rfl⟩
  | succ count ih =>
    by_cases hfeed : '\n' ∈ rest
    · obtain ⟨columns, behind, rfl, hfree⟩ := List.eq_append_cons_of_mem hfeed
      obtain ⟨start, hstart, hwalk⟩ := ih (whole ++ (columns ++ ['\n'])) behind
      refine ⟨columns.length + 1 + start, ?_, ?_⟩
      · have hcount : min (count + 1) ((columns ++ '\n' :: behind).count '\n') =
            min count (behind.count '\n') + 1 := by
          rw [List.count_append, List.count_eq_zero.mpr hfree, List.count_cons_self]
          omega
        rw [hcount, lineStart?_feed hfree, hstart, Option.map_some]
      · have htext : whole ++ (columns ++ '\n' :: behind) =
            whole ++ (columns ++ ['\n']) ++ behind := by simp
        rw [lineWalk_feed hfree, htext, hwalk]
        simp only [List.length_append, List.length_singleton]
        omega
    · refine ⟨0, ?_, ?_⟩
      · rw [List.count_eq_zero.mpr hfeed, Nat.min_zero]
        simp [lineStart?]
      · rw [lineWalk_stops (by rwa [List.drop_left])]
        rfl

theorem lineColumnOffset_eq_walk (text : List Char) (line column : Int) :
    lineColumnOffset text line column =
      lineWalk text (line - 1).toNat 0 + max 0 (column - 1) := by
  obtain ⟨start, hstart, hwalk⟩ := exists_lineWalk (line - 1).toNat [] text
  rw [List.nil_append, List.length_nil, Nat.zero_add] at hwalk
  simp only [lineColumnOffset, hstart, Option.getD_some, hwalk]

/-! Points and spans. -/

/-- The line and the column of an offset lead back to it. -/
theorem lineColumnOffset_of_place {text : List Char} {offset : Nat} (h : offset ≤ text.length) :
    lineColumnOffset text (1 + (text.take offset).count '\n')
      (1 + (lastLine (text.take offset)).length) = offset := by
  obtain ⟨whole, hbefore, hend, hfree⟩ := exists_append_lastLine (text.take offset)
  generalize lastLine (text.take offset) = line at hbefore hfree
  have hlength : whole.length + line.length = offset := by
    rw [← List.length_append, ← hbefore, List.length_take, Nat.min_eq_left h]
  have hcount : (text.take offset).count '\n' = whole.count '\n' := by
    rw [hbefore, List.count_append, List.count_eq_zero.mpr hfree, Nat.add_zero]
  have hle : whole.count '\n' ≤ text.count '\n' := by
    rw [← hcount]
    exact (List.take_sublist _ _).count_le _
  have hstart : lineStart? text (whole.count '\n') = some whole.length := by
    rw [← List.take_append_drop offset text, hbefore, List.append_assoc]
    exact lineStart?_append _ hend
  have hnumber : min (1 + (whole.count '\n' : Int) - 1).toNat (text.count '\n') =
      whole.count '\n' := by omega
  rw [lineColumnOffset, hcount, hnumber, hstart]
  simp only [Option.getD_some]
  omega

theorem pointOffset?_of_marks {text : List Char} {offset : Nat} (h : offset ≤ text.length)
    {p : Value} (hp : Marks text offset p) : pointOffset? text (some p) = some (offset : Int) := by
  cases hp with
  | byOffset hoffset => simp only [pointOffset?, Option.bind_some, hoffset]
  | byLine hoffset hline hcolumn =>
    simp only [pointOffset?, Option.bind_some, hline, hcolumn, locationNumber?, Option.map_some,
      lineColumnOffset_of_place h]

theorem spanOfLocation?_of_marks {text : List Char} {start stop : Nat}
    (hstart : start ≤ text.length) (hstop : stop ≤ text.length) {location : Value}
    (h : MarksSpan text start stop location) :
    spanOfLocation? location text =
      some (if stop < start then ⟨start, start + 1⟩ else ⟨start, stop⟩) := by
  obtain ⟨⟨p, hp, hmarks⟩, p', hp', hmarks'⟩ := h
  cases location with
  | table fields =>
    have hfirst : pointOffset? text (Value.lookup "start" fields) = some (start : Int) :=
      (congrArg _ hp).trans (pointOffset?_of_marks hstart hmarks)
    have hlast : pointOffset? text (Value.lookup "end" fields) = some (stop : Int) :=
      (congrArg _ hp').trans (pointOffset?_of_marks hstop hmarks')
    simp only [spanOfLocation?, hfirst, hlast, Option.map_some, Int.ofNat_lt]
  | null | bool | int | real | text | moment | list => cases hp

/-- A location has one span, whether its points are told by offset or by line and column, and for
all integers in it the span does not end before it begins. The line is the one that a walk over the
line feeds comes to. -/
theorem spanOfLocation?_by_place (text : List Char) :
    (∀ start stop : Nat, start ≤ text.length → stop ≤ text.length → ∀ a b : Value,
      MarksSpan text start stop a → MarksSpan text start stop b →
        spanOfLocation? a text = spanOfLocation? b text ∧
          spanOfLocation? a text =
            some (if stop < start then ⟨start, start + 1⟩ else ⟨start, stop⟩)) ∧
    (∀ location span, spanOfLocation? location text = some span → span.start ≤ span.stop) ∧
    ∀ line column : Int, lineColumnOffset text line column =
      lineWalk text (line - 1).toNat 0 + max 0 (column - 1) := by
  refine ⟨?_, fun _ _ h => spanOfLocation?_ordered h, lineColumnOffset_eq_walk text⟩
  intro start stop hstart hstop a b ha hb
  have hspan := spanOfLocation?_of_marks hstart hstop ha
  exact ⟨hspan.trans (spanOfLocation?_of_marks hstart hstop hb).symm, hspan⟩

/-- From an empty line to the place behind the last line feed, once by offsets and once by lines;
and a location that ends before its beginning, far before the text. -/
theorem spanOfLocation?_by_place_behind_feed :
    let text := "\"a\n\nb\n".toList
    let byOffsets : Value := .table
      [("start", Brackets.pointValue text 3), ("end", Brackets.pointValue text 6)]
    let byLines : Value := .table
      [("start", .table [("line", .int 2), ("column", .int 1)]),
       ("end", .table [("line", .int 4), ("column", .int 1)])]
    let backwards : Value := .table
      [("start", .table [("offset", .int 5)]),
       ("end", .table [("line", .int (-3)), ("column", .int (-9))])]
    MarksSpan text 3 6 byOffsets ∧ MarksSpan text 3 6 byLines ∧
      spanOfLocation? byOffsets text = spanOfLocation? byLines text ∧
      spanOfLocation? byOffsets text = some ⟨3, 6⟩ ∧
      spanOfLocation? backwards text = some ⟨5, 6⟩ ∧ (5 : Int) ≤ 6 := by
  intro text byOffsets byLines backwards
  have hoffsets : MarksSpan text 3 6 byOffsets :=
    ⟨⟨_, rfl, .byOffset rfl⟩, _, rfl, .byOffset rfl⟩
  have hlines : MarksSpan text 3 6 byLines :=
    ⟨⟨_, rfl, .byLine nofun rfl rfl⟩, _, rfl, .byLine nofun rfl rfl⟩
  have hbackwards : spanOfLocation? backwards text = some ⟨5, 6⟩ := rfl
  obtain ⟨hagree, hordered, -⟩ := spanOfLocation?_by_place text
  obtain ⟨hsame, hspan⟩ := hagree 3 6 (by decide) (by decide) _ _ hoffsets hlines
  exact ⟨hoffsets, hlines, hsame, hspan, hbackwards, hordered _ _ hbackwards⟩

end PatternServer.Notation
