import PatternServer.Diagnostics.Validate
import PatternServer.Editor.Completion
import PatternServer.Editor.Hover
import PatternServer.Editor.SignatureHelp
import PatternServer.Proofs.LineColumns
import PatternServer.Proofs.ScansByOffset
import PatternServer.Proofs.Scanning
import PatternServer.Proofs.TextRuns

/-!
# Requests stay inside the text

A request names a position, which may lie anywhere. Its offset is found with a table of the lines of
the text, the scans around that offset read the text character by character, and each look-up may
be out of range. Here the look-ups are made as such: a position always has an offset, which the text
has, so no request fails. The scans of a validation start at the quotes of literals, which the text
has as well.
-/

namespace PatternServer.Document

set_option autoImplicit false

open PatternServer.Text

/-! The table of the lines. -/

/-- The offsets directly behind the line feeds of a text that begins at `offset`. -/
def feedEnds : (offset : Nat) → List Char → List Nat
  | _, [] => []
  | offset, c :: rest =>
    if c = '\n' then (offset + 1) :: feedEnds (offset + 1) rest
    else feedEnds (offset + 1) rest

/-- The offsets at which the lines of a text begin. -/
def lineStarts (text : List Char) : List Nat :=
  0 :: feedEnds 0 text

/-- The lines of a text, each but the last with its line feed. -/
def feedLines (text : List Char) : Except ScanError (List (List Char)) := do
  let parts := splitOn '\n' text
  let last ← entryAt parts (parts.length - 1)
  return parts.dropLast.map (· ++ ['\n']) ++ [last]

/-- The offset at which a line ends: one before the next line begins, or the end of the text. -/
def lineStop (text : List Char) (line : Nat) : Except ScanError Nat := do
  if line + 1 < (lineStarts text).length then
    let next ← entryAt (lineStarts text) (line + 1)
    return next - 1
  else return text.length

/-- The offset of a position, looked up in the table. -/
def offsetByTable (e : Encoding) (text : List Char) (p : Position) : Except ScanError Nat := do
  if (lineStarts text).length ≤ p.line then return text.length
  let start ← entryAt (lineStarts text) p.line
  let stop ← lineStop text p.line
  let width := e.units (slice text start stop)
  let lines ← feedLines text
  let walked := nativePosition e lines ⟨p.line, min p.character width⟩
  return min (start + walked.2) stop

theorem length_feedEnds (offset : Nat) (text : List Char) :
    (feedEnds offset text).length = text.count '\n' := by
  induction text generalizing offset with
  | nil => rfl
  | cons c text ih =>
    by_cases hc : c = '\n'
    · subst hc
      rw [feedEnds, if_pos rfl, List.length_cons, ih, List.count_cons_self]
    · rw [feedEnds, if_neg hc, ih, List.count_cons_of_ne hc]

theorem length_lineStarts (text : List Char) :
    (lineStarts text).length = text.count '\n' + 1 := by
  rw [lineStarts, List.length_cons, length_feedEnds]

theorem feedEnds_getElem? (offset : Nat) (text : List Char) (n : Nat) :
    (feedEnds offset text)[n]? = (lineStart? text (n + 1)).map (offset + ·) := by
  induction text generalizing offset n with
  | nil => rfl
  | cons c text ih =>
    have hshift : (offset + ·) ∘ (· + 1) = (offset + 1 + ·) := by
      funext k
      simp only [Function.comp_apply]
      omega
    by_cases hc : c = '\n'
    · rw [feedEnds, if_pos hc, lineStart?, if_pos hc, Option.map_map, hshift]
      cases n with
      | zero => rw [List.getElem?_cons_zero, lineStart?, Option.map_some, Nat.add_zero]
      | succ n => rw [List.getElem?_cons_succ, ih]
    · rw [feedEnds, if_neg hc, ih, lineStart?, if_neg hc, Option.map_map, hshift]

theorem lineStarts_getElem? (text : List Char) (n : Nat) :
    (lineStarts text)[n]? = lineStart? text n := by
  cases n with
  | zero => rw [lineStarts, List.getElem?_cons_zero, lineStart?]
  | succ n =>
    have hshift : (fun k => 0 + k) = (id : Nat → Nat) := funext Nat.zero_add
    rw [lineStarts, List.getElem?_cons_succ, feedEnds_getElem?, hshift, Option.map_id, id]

theorem splitOn_feed_getElem? (text : List Char) (n : Nat) :
    (splitOn '\n' text)[n]? =
      (lineStart? text n).map fun start => (text.drop start).takeWhile (· ≠ '\n') := by
  induction text generalizing n with
  | nil => cases n <;> rfl
  | cons c text ih =>
    by_cases hc : c = '\n'
    · subst hc
      rw [splitOn, if_pos rfl]
      cases n with
      | zero => rfl
      | succ n =>
        rw [List.getElem?_cons_succ, ih, lineStart?, if_pos rfl, Option.map_map]
        rfl
    · obtain ⟨first, more, hparts, hcons⟩ := splitOn_cons_of_ne hc text
      have hrest := ih n
      rw [hparts] at hrest
      rw [hcons]
      cases n with
      | zero =>
        rw [List.getElem?_cons_zero, lineStart?, Option.map_some, List.drop_zero] at hrest ⊢
        rw [List.takeWhile_cons_of_pos (by simpa using hc), Option.some.inj hrest]
      | succ n =>
        rw [List.getElem?_cons_succ] at hrest ⊢
        rw [hrest, lineStart?, if_neg hc, Option.map_map]
        rfl

theorem length_splitOn_feed (text : List Char) :
    (splitOn '\n' text).length = text.count '\n' + 1 := by
  induction text with
  | nil => rfl
  | cons c text ih =>
    by_cases hc : c = '\n'
    · subst hc
      rw [splitOn, if_pos rfl, List.length_cons, ih, List.count_cons_self]
    · obtain ⟨first, more, hparts, hcons⟩ := splitOn_cons_of_ne hc text
      rw [hcons, List.count_cons_of_ne hc, ← ih, hparts, List.length_cons, List.length_cons]

namespace Line

variable (l : Line)

theorem count_text : l.text.count '\n' = l.number + l.after.count '\n' := by
  rw [text, List.count_append, List.count_append, List.count_eq_zero.mpr l.free, Nat.zero_add,
    number]

theorem slice_columns : slice l.text l.start l.stop = l.columns := by
  rw [slice, text, start, stop, List.drop_left, Nat.add_sub_cancel_left, List.take_left]

theorem feedLines_eq :
    ∃ lines, feedLines l.text = .ok lines ∧ lines[l.number]? = some l.whole := by
  have hlength := length_splitOn_feed l.text
  have hcount := l.count_text
  have hcolumns : (splitOn '\n' l.text)[l.number]? = some l.columns := by
    rw [splitOn_feed_getElem?, l.lineStart?_eq, Option.map_some, l.columns_eq]
  have hlt : (splitOn '\n' l.text).length - 1 < (splitOn '\n' l.text).length := by omega
  have hlast := List.getElem?_eq_getElem hlt
  refine ⟨_, by simp only [feedLines, entryAt_eq_ok hlast, bind_ok]; rfl, ?_⟩
  rcases l.closing with hafter | hafter
  · rw [hafter, List.count_nil, Nat.add_zero] at hcount
    have hnumber : l.number = (splitOn '\n' l.text).length - 1 := by omega
    rw [List.getElem?_append_right (by simp [hnumber]), List.length_map, List.length_dropLast,
      hnumber, Nat.sub_self, List.getElem?_cons_zero, ← hlast, ← hnumber, hcolumns, whole, hafter,
      List.take_nil, List.append_nil]
  · obtain ⟨after, hafter⟩ := List.head?_eq_some_iff.mp hafter
    rw [hafter, List.count_cons_self] at hcount
    have hnumber : l.number < (splitOn '\n' l.text).length - 1 := by omega
    rw [List.getElem?_append_left (by simpa using hnumber), List.getElem?_map,
      List.getElem?_dropLast, if_pos hnumber, hcolumns, Option.map_some, whole, hafter]
    rfl

theorem nextStart_eq {after : List Char} (h : l.after = '\n' :: after) :
    (lineStarts l.text)[l.number + 1]? = some (l.stop + 1) := by
  have htext : l.text = (l.before ++ l.columns ++ ['\n']) ++ after := by
    simp [text, h]
  have hnumber : l.number + 1 = (l.before ++ l.columns ++ ['\n']).count '\n' := by
    simp [number, List.count_eq_zero.mpr l.free]
  have hstop : (l.before ++ l.columns ++ ['\n']).length = l.stop + 1 := by
    simp only [stop, List.length_append, List.length_singleton]
  rw [lineStarts_getElem?, htext, hnumber, lineStart?_append _ (Or.inr (by simp)), hstop]

theorem lineStop_eq : lineStop l.text l.number = .ok l.stop := by
  have hlength := length_lineStarts l.text
  have hcount := l.count_text
  rcases l.closing with hafter | hafter
  · rw [hafter, List.count_nil] at hcount
    rw [lineStop, if_neg (by omega), text, stop, hafter, List.append_nil, List.length_append]
    rfl
  · obtain ⟨after, hafter⟩ := List.head?_eq_some_iff.mp hafter
    rw [hafter, List.count_cons_self] at hcount
    rw [lineStop, if_pos (by omega), entryAt_eq_ok (l.nextStart_eq hafter)]
    rfl

theorem offsetByTable_eq (e : Encoding) (character : Nat) :
    offsetByTable e l.text ⟨l.number, character⟩ = .ok (offsetAt e l.text l.number character) := by
  have hlength := length_lineStarts l.text
  have hcount := l.count_text
  have hstart : (lineStarts l.text)[l.number]? = some l.start := by
    rw [lineStarts_getElem?, l.lineStart?_eq]
  obtain ⟨lines, hlines, hline⟩ := l.feedLines_eq
  have hwalk := l.walk_eq_offsetAt e character
  rw [Int.toNat_natCast] at hwalk
  simp only [offsetByTable]
  rw [if_neg (by omega), entryAt_eq_ok hstart, l.lineStop_eq]
  simp only [bind_ok, hlines, l.slice_columns, nativePosition, hline, hwalk]
  rfl

end Line

theorem offsetByTable_eq (e : Encoding) (text : List Char) (p : Position) :
    offsetByTable e text p = .ok (p.offset e text) := by
  rcases line_cases text p.line with h | h | ⟨l, rfl, hl⟩
  · omega
  · have hbehind : (lineStarts text).length ≤ p.line := by
      rw [length_lineStarts]
      omega
    rw [Position.offset, offsetAt_behind e text h]
    simp only [offsetByTable, if_pos hbehind]
    rfl
  · have hp : p = ⟨l.number, p.character⟩ := by
      rw [Int.ofNat_inj.mp hl]
    rw [hp, l.offsetByTable_eq, Position.offset]

theorem Position.offset_le_length (e : Encoding) (text : List Char) (p : Position) :
    p.offset e text ≤ text.length :=
  offsetAt_le_length e text p.line p.character

/-! Scans that are started in the text. -/

section
variable (text : List Char) (offset : Nat)

theorem guarded_eq_error_iff {α : Type} (a : α) :
    (if text.length < offset then .error .outOfRange else .ok a) =
      (.error .outOfRange : Except ScanError α) ↔ text.length < offset := by
  by_cases h : text.length < offset <;> simp [h]

theorem enclosingLiteral_eq_error_iff :
    enclosingLiteral text offset = .error .outOfRange ↔ text.length < offset :=
  guarded_eq_error_iff text offset _

theorem enclosingCall_eq_error_iff :
    enclosingCall text offset = .error .outOfRange ↔ text.length < offset :=
  guarded_eq_error_iff text offset _

theorem wordAround_eq_error_iff :
    wordAround text offset = .error .outOfRange ↔ text.length < offset :=
  guarded_eq_error_iff text offset _

end

/-- A scan that fails only behind the end of the text returns at the offset of a position. -/
theorem Position.exists_ok {α : Type} {scan : Nat → Except ScanError α} {text : List Char}
    (h : ∀ offset, scan offset = .error .outOfRange ↔ text.length < offset) (e : Encoding)
    (p : Position) : ∃ found, scan (p.offset e text) = .ok found := by
  cases hscan : scan (p.offset e text) with
  | ok found => exact ⟨found, rfl⟩
  | error cause =>
    cases cause
    exact absurd ((h _).mp hscan) (Nat.not_lt.mpr (p.offset_le_length e text))

end PatternServer.Document

namespace PatternServer.Diagnostics

set_option autoImplicit false

open PatternServer.Document

namespace Context

/-- Whether a literal is left alone, by a scan for the call around its opening quote that may
fail. -/
def skipsByOffset (c : Context) (l : Literal) : Except ScanError Bool := do
  let isNonSample (name : List Char) : Bool :=
    c.registry.isNonSampleFunction (String.ofList name)
  let quote := l.start - 1
  if isExcluded l.body then return true
  if (callOpeningBefore c.text quote).any isNonSample then return true
  let call ← callBefore c.text quote 0 0
  return call.any fun call => isNonSample call.name

theorem skipsByOffset_eq (c : Context) {l : Literal} (h : l ∈ literals c.text) :
    c.skipsByOffset l = .ok (c.skips l) := by
  obtain ⟨_, hstop⟩ := literal_bounds h
  have hquote : ¬ c.text.length < l.start - 1 := by
    have hle := l.start_le_stop
    omega
  simp only [skipsByOffset, skips, callBefore_eq_enclosingCall, enclosingCall, if_neg hquote,
    bind_ok]
  cases isExcluded l.body with
  | true => rfl
  | false =>
    cases (callOpeningBefore c.text (l.start - 1)).any fun name =>
        c.registry.isNonSampleFunction (String.ofList name) with
    | true => rfl
    | false => cases openCall? 0 0 (c.text.take (l.start - 1)).reverse <;> rfl

end Context

end PatternServer.Diagnostics

namespace PatternServer.Editor

set_option autoImplicit false

open PatternServer.Diagnostics PatternServer.Document PatternServer.Vocabulary

theorem activeSignature_lt {signatures : List Signature} (h : signatures ≠ []) (argument : Nat) :
    activeSignature signatures argument < signatures.length := by
  rw [activeSignature]
  cases hfound : signatures.findIdx? fun s => decide (argument < s.parameters.length) with
  | none => exact List.length_pos_iff.mpr h
  | some i =>
    obtain ⟨hi, _⟩ := List.findIdx?_eq_some_iff_getElem.mp hfound
    exact hi

section
variable (e : Encoding) (text : List Char) (p : Position) (registry : Registry)

theorem exists_complete : ∃ items, complete e text p registry = .ok items := by
  obtain ⟨found, hfound⟩ := p.exists_ok (enclosingLiteral_eq_error_iff text) e
  simp only [complete, hfound, bind_ok]
  cases found with
  | none => exact ⟨_, rfl⟩
  | some l =>
    simp only
    split <;> exact ⟨_, rfl⟩

theorem exists_hover : ∃ shown, hover e text p registry = .ok shown := by
  obtain ⟨word, hword⟩ := p.exists_ok (wordAround_eq_error_iff text) e
  obtain ⟨found, hfound⟩ := p.exists_ok (enclosingLiteral_eq_error_iff text) e
  simp only [hover, hword, hfound, bind_ok]
  split
  · exact ⟨_, rfl⟩
  · cases found <;> exact ⟨_, rfl⟩

theorem exists_signatureHelp :
    ∃ help, signatureHelp e text p registry = .ok help ∧
      ∀ h, help = some h → h.activeSignature < h.signatures.length := by
  obtain ⟨found, hfound⟩ := p.exists_ok (enclosingCall_eq_error_iff text) e
  simp only [signatureHelp, hfound, bind_ok]
  cases found with
  | none => exact ⟨none, rfl, by simp⟩
  | some call =>
    simp only
    cases registry.function? (String.ofList call.name) with
    | none => exact ⟨none, rfl, by simp⟩
    | some f =>
      by_cases hnone : f.signatures = []
      · exact ⟨none, by simp only [hnone]; rfl, by simp⟩
      · have hsome : f.signatures.isEmpty = false := List.isEmpty_eq_false_iff.mpr hnone
        refine ⟨some (helpFor f call.argument), by simp only [hsome]; rfl, ?_⟩
        intro h hh
        cases hh
        simpa only [helpFor, List.length_map] using activeSignature_lt hnone call.argument

end

/-- A scan fails just when it is started behind the end of the text, also if it reads the text by
offsets. The offset of a position, also if it is looked up in the table of lines, is one of the
text. So every request returns, whatever its position, and the signature that a help points out is
one of those it gives. The scan for the call before a literal returns as well. -/
theorem requests_in_range :
    (∀ text offset,
      literalAround text offset = enclosingLiteral text offset ∧
      callBefore text offset 0 0 = enclosingCall text offset ∧
      nameAround text offset = wordAround text offset ∧
      (enclosingLiteral text offset = .error .outOfRange ↔ text.length < offset) ∧
      (enclosingCall text offset = .error .outOfRange ↔ text.length < offset) ∧
      (wordAround text offset = .error .outOfRange ↔ text.length < offset)) ∧
    (∀ e text p, offsetByTable e text p = .ok (p.offset e text) ∧
      p.offset e text ≤ text.length) ∧
    (∀ e text p registry,
      (∃ items, complete e text p registry = .ok items) ∧
      (∃ shown, hover e text p registry = .ok shown) ∧
      ∃ help, signatureHelp e text p registry = .ok help ∧
        ∀ h, help = some h → h.activeSignature < h.signatures.length) ∧
    ∀ (c : Context) (l : Literal), l ∈ literals c.text →
      0 < l.start ∧ c.skipsByOffset l = .ok (c.skips l) := by
  refine ⟨?_, ?_, ?_, ?_⟩
  · intro text offset
    exact ⟨literalAround_eq text offset, callBefore_eq_enclosingCall text offset,
      nameAround_eq text offset, enclosingLiteral_eq_error_iff text offset,
      enclosingCall_eq_error_iff text offset, wordAround_eq_error_iff text offset⟩
  · intro e text p
    exact ⟨offsetByTable_eq e text p, p.offset_le_length e text⟩
  · intro e text p registry
    exact ⟨exists_complete e text p registry, exists_hover e text p registry,
      exists_signatureHelp e text p registry⟩
  · intro c l hl
    exact ⟨(literal_bounds hl).1, c.skipsByOffset_eq hl⟩

/-- Far behind the end of a line with an open call, and before a literal in that call. -/
theorem requests_in_range_far :
    let f : HostFunction := ⟨"s", "", "", [⟨"s(name)", none, []⟩]⟩
    let registry : Registry := { Registry.standard with functions := [f] }
    let text := "n(1)\ns('bd'".toList
    let c : Context := ⟨text, .utf16, registry⟩
    let l : Literal := ⟨['b', 'd'], 8, '\''⟩
    signatureHelp .utf16 text ⟨1, Position.limit⟩ registry = .ok (some (helpFor f 0)) ∧
      (helpFor f 0).activeSignature < (helpFor f 0).signatures.length ∧
      l ∈ literals text ∧ c.skipsByOffset l = .ok (c.skips l) := by
  intro f registry text c l
  obtain ⟨_, _, hrequests, hscan⟩ := requests_in_range
  have hhelp :
      signatureHelp .utf16 text ⟨1, Position.limit⟩ registry = .ok (some (helpFor f 0)) := by
    decide +kernel
  have hl : l ∈ literals text := by decide +kernel
  obtain ⟨_, _, help, hreturned, hactive⟩ := hrequests .utf16 text ⟨1, Position.limit⟩ registry
  exact ⟨hhelp, hactive _ (Except.ok.inj (hreturned.symm.trans hhelp)), hl, (hscan c l hl).2⟩

end PatternServer.Editor
