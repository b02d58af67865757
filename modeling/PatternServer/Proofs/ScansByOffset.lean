import PatternServer.Proofs.LiteralCover
import PatternServer.Proofs.OpenCalls

/-!
# Scans that read a text by offset

The scans around an offset walk over the text before it, in reverse, and over the text behind it.
Here they step from offset to offset instead and look up one character at a time, and a look-up
behind the end of the text fails. Both ways come to the same, failures included: a scan fails just
when it is started behind the end of the text, so no look-up of its own leaves the text.

What the scans find is not described here.
-/

namespace PatternServer.Document

set_option autoImplicit false

open PatternServer.Text

/-- The entry of a list at an index, which may be out of range. -/
def entryAt {α : Type} (entries : List α) (i : Nat) : Except ScanError α :=
  match entries[i]? with
  | some a => .ok a
  | none => .error .outOfRange

/-- Whether the character at an offset stands directly behind a backslash. -/
def escapedAt (text : List Char) (i : Nat) : Except ScanError Bool := do
  if i = 0 then return false
  return (← entryAt text (i - 1)) == '\\'

/-- The nearest quote of the line before an offset and where it stands. -/
def quoteBefore (text : List Char) : Nat → Except ScanError (Option (Nat × Char))
  | 0 => .ok none
  | i + 1 => do
    let c ← entryAt text i
    if isQuote c then
      if ← escapedAt text i then quoteBefore text i else return some (i, c)
    else if c = '\n' ∨ c = ';' then return none
    else quoteBefore text i

/-- Where the next quote `q` of the line stands, among `count` characters from an offset on. -/
def quoteFrom (text : List Char) (q : Char) : (count i : Nat) → Except ScanError (Option Nat)
  | 0, _ => .ok none
  | count + 1, i => do
    let c ← entryAt text i
    if c = q then
      if ← escapedAt text i then quoteFrom text q count (i + 1) else return some i
    else if c = '\n' then return none
    else quoteFrom text q count (i + 1)

/-- The literal around an offset. -/
def literalAround (text : List Char) (offset : Nat) : Except ScanError (Option Literal) := do
  match ← quoteBefore text offset with
  | none => return none
  | some (i, q) =>
    match ← quoteFrom text q (text.length - offset) offset with
    | none => return none
    | some j => return some ⟨slice text (i + 1) j, i + 1, q⟩

/-- Where the name begins that ends at an offset. -/
def nameStart (text : List Char) : Nat → Except ScanError Nat
  | 0 => .ok 0
  | i + 1 => do
    let c ← entryAt text i
    if isNameChar c then nameStart text i else return i + 1

/-- Where the name ends that begins at an offset, among `count` characters. -/
def nameStop (text : List Char) : (count i : Nat) → Except ScanError Nat
  | 0, i => .ok i
  | count + 1, i => do
    let c ← entryAt text i
    if isNameChar c then nameStop text count (i + 1) else return i

/-- The call of the parenthesis that is open at an offset, with the parentheses closed so far and
the commas passed outside of them. -/
def callBefore (text : List Char) :
    (offset depth argument : Nat) → Except ScanError (Option CallContext)
  | 0, _, _ => .ok none
  | i + 1, depth, argument => do
    let c ← entryAt text i
    if c = ')' then callBefore text i (depth + 1) argument
    else if c = '(' then
      if depth = 0 then
        let start ← nameStart text i
        if start < i then return some ⟨slice text start i, argument⟩ else return none
      else callBefore text i (depth - 1) argument
    else if c = ',' ∧ depth = 0 then callBefore text i depth (argument + 1)
    else if c = '\n' ∨ c = ';' then return none
    else callBefore text i depth argument

/-- The name around an offset. -/
def nameAround (text : List Char) (offset : Nat) : Except ScanError (List Char) := do
  let start ← nameStart text offset
  let stop ← nameStop text (text.length - offset) offset
  return slice text start stop

/-! Looking up entries. -/

theorem bind_ok {α β : Type} (a : α) (f : α → Except ScanError β) : (.ok a >>= f) = f a := rfl

theorem entryAt_eq_ok {α : Type} {entries : List α} {i : Nat} {a : α} (h : entries[i]? = some a) :
    entryAt entries i = .ok a := by
  simp only [entryAt, h]

theorem entryAt_eq_error {α : Type} {entries : List α} {i : Nat} (h : entries.length ≤ i) :
    entryAt entries i = .error .outOfRange := by
  simp only [entryAt, List.getElem?_eq_none h]

section
variable {text : List Char} {i : Nat} {c : Char}

theorem entryAt_behind {offset : Nat} (h : text.length < offset) :
    ∃ i, offset = i + 1 ∧ entryAt text i = .error .outOfRange := by
  obtain ⟨i, rfl⟩ := Nat.exists_eq_succ_of_ne_zero (Nat.ne_of_gt (Nat.zero_lt_of_lt h))
  exact ⟨i, rfl, entryAt_eq_error (Nat.le_of_lt_succ h)⟩

theorem reverse_take_succ (h : text[i]? = some c) :
    (text.take (i + 1)).reverse = c :: (text.take i).reverse := by
  rw [List.take_add_one, h, Option.toList_some, List.reverse_append, List.reverse_singleton,
    List.singleton_append]

theorem drop_eq_cons (h : text[i]? = some c) : text.drop i = c :: text.drop (i + 1) := by
  obtain ⟨hlt, rfl⟩ := List.getElem?_eq_some_iff.mp h
  exact List.drop_eq_getElem_cons hlt

end

/-- The character at an offset stands directly behind a backslash. -/
def Escaped (text : List Char) (i : Nat) : Prop :=
  0 < i ∧ text[i - 1]? = some '\\'

instance (text : List Char) (i : Nat) : Decidable (Escaped text i) :=
  inferInstanceAs (Decidable (_ ∧ _))

theorem exists_getElem? {text : List Char} {i : Nat} (h : i < text.length) :
    ∃ c, text[i]? = some c :=
  ⟨text[i], List.getElem?_eq_getElem h⟩

theorem head?_reverse_take {text : List Char} {i : Nat} (h : i ≤ text.length) :
    (text.take i).reverse.head? = some '\\' ↔ Escaped text i := by
  cases i with
  | zero => simp [Escaped]
  | succ i =>
    obtain ⟨c, hc⟩ := exists_getElem? h
    rw [reverse_take_succ hc, List.head?_cons, Escaped, Nat.add_sub_cancel, hc]
    simp

theorem escapedAt_eq {text : List Char} {i : Nat} (h : i ≤ text.length) :
    escapedAt text i = .ok (decide (Escaped text i)) := by
  cases i with
  | zero => rfl
  | succ i =>
    obtain ⟨c, hc⟩ := exists_getElem? h
    have hescaped : Escaped text (i + 1) ↔ c = '\\' := by
      rw [Escaped, Nat.add_sub_cancel, hc]
      simp
    have hread : entryAt text (i + 1 - 1) = .ok c := entryAt_eq_ok hc
    simp only [escapedAt, hread, bind_ok, hescaped]
    rfl

/-! One step of each scan, in the text. -/

section
variable {text : List Char} {i : Nat} {c : Char}

theorem quoteBefore_succ (h : text[i]? = some c) :
    quoteBefore text (i + 1) =
      if isQuote c then
        if Escaped text i then quoteBefore text i else .ok (some (i, c))
      else if c = '\n' ∨ c = ';' then .ok none
      else quoteBefore text i := by
  obtain ⟨hlt, _⟩ := List.getElem?_eq_some_iff.mp h
  simp only [quoteBefore, entryAt_eq_ok h, bind_ok, escapedAt_eq (Nat.le_of_lt hlt),
    decide_eq_true_eq]
  rfl

theorem quoteFrom_succ (h : text[i]? = some c) (q : Char) (count : Nat) :
    quoteFrom text q (count + 1) i =
      if c = q then
        if Escaped text i then quoteFrom text q count (i + 1) else .ok (some i)
      else if c = '\n' then .ok none
      else quoteFrom text q count (i + 1) := by
  obtain ⟨hlt, _⟩ := List.getElem?_eq_some_iff.mp h
  simp only [quoteFrom, entryAt_eq_ok h, bind_ok, escapedAt_eq (Nat.le_of_lt hlt),
    decide_eq_true_eq]
  rfl

theorem nameStart_succ (h : text[i]? = some c) :
    nameStart text (i + 1) = if isNameChar c then nameStart text i else .ok (i + 1) := by
  simp only [nameStart, entryAt_eq_ok h, bind_ok]
  rfl

theorem nameStop_succ (h : text[i]? = some c) (count : Nat) :
    nameStop text (count + 1) i = if isNameChar c then nameStop text count (i + 1) else .ok i := by
  simp only [nameStop, entryAt_eq_ok h, bind_ok]
  rfl

end

/-! The scan for a literal. -/

/-- The quote that is so many characters back, by its offset. -/
def quoteOffset (i : Nat) (found : Nat × Char) : Nat × Char :=
  (i - 1 - found.1, found.2)

theorem quoteBefore_eq {text : List Char} {i : Nat} (h : i ≤ text.length) :
    quoteBefore text i = .ok ((openingQuote? (text.take i).reverse).map (quoteOffset i)) := by
  induction i with
  | zero => rfl
  | succ i ih =>
    obtain ⟨c, hc⟩ := exists_getElem? h
    have hstep : ∀ found : Option (Nat × Char),
        (found.map fun r => (r.1 + 1, r.2)).map (quoteOffset (i + 1)) =
          found.map (quoteOffset i) := by
      intro found
      rw [Option.map_map]
      congr 1
      funext r
      simp only [Function.comp_apply, quoteOffset]
      congr 1
      omega
    rw [quoteBefore_succ hc, reverse_take_succ hc, openingQuote?,
      ih (Nat.le_of_succ_le h)]
    simp only [head?_reverse_take (Nat.le_of_succ_le h)]
    split
    · split
      · rw [hstep]
      · rfl
    · split
      · rfl
      · rw [hstep]

theorem quoteFrom_eq {text : List Char} (q : Char) {count i : Nat} (h : i + count = text.length) :
    quoteFrom text q count i =
      .ok ((closingQuote? q (text.take i).reverse.head? (text.drop i)).map (· + i)) := by
  induction count generalizing i with
  | zero =>
    have hend : text.drop i = [] := List.drop_eq_nil_of_le (Nat.le_of_eq h.symm)
    rw [hend]
    rfl
  | succ count ih =>
    have hlt : i < text.length := by omega
    obtain ⟨c, hc⟩ := exists_getElem? hlt
    have hstep : ∀ found : Option Nat,
        (found.map (· + 1)).map (· + i) = found.map (· + (i + 1)) := by
      intro found
      rw [Option.map_map]
      congr 1
      funext n
      simp only [Function.comp_apply]
      omega
    have hnext := ih (i := i + 1) (by omega)
    rw [reverse_take_succ hc, List.head?_cons] at hnext
    rw [quoteFrom_succ hc, drop_eq_cons hc, closingQuote?, hnext]
    simp only [head?_reverse_take (Nat.le_of_lt hlt)]
    split
    · split
      · rw [hstep]
      · simp
    · split
      · rfl
      · rw [hstep]

theorem quoteBefore_behind {text : List Char} {offset : Nat} (h : text.length < offset) :
    quoteBefore text offset = .error .outOfRange := by
  obtain ⟨i, rfl, hread⟩ := entryAt_behind h
  simp only [quoteBefore, hread]
  rfl

theorem literalAround_eq (text : List Char) (offset : Nat) :
    literalAround text offset = enclosingLiteral text offset := by
  unfold enclosingLiteral
  split
  · rename_i hbehind
    rw [literalAround, quoteBefore_behind hbehind]
    rfl
  · rename_i hle
    have hle := Nat.not_lt.mp hle
    simp only [literalAround, quoteBefore_eq hle, bind_ok]
    cases hopen : openingQuote? (text.take offset).reverse with
    | none => rfl
    | some found =>
      obtain ⟨n, q⟩ := found
      obtain ⟨_, inner, older, hbefore, hn⟩ := openingQuote?_split hopen
      have hlt : n < offset := by
        have hlength := congrArg List.length hbefore
        simp only [List.length_reverse, List.length_take, List.length_append, List.length_cons]
          at hlength
        omega
      simp only [Option.map_some, quoteOffset, quoteFrom_eq q (Nat.add_sub_cancel' hle), bind_ok,
        Option.bind_some]
      cases closingQuote? q (text.take offset).reverse.head? (text.drop offset) with
      | none => rfl
      | some ahead =>
        have hstart : offset - 1 - n + 1 = offset - n := by omega
        have hbody : slice text (offset - n) (ahead + offset) =
            (text.drop (offset - n)).take (n + ahead) := by
          rw [slice]
          congr 1
          omega
        simp only [Option.map_some, hstart, hbody]
        rfl

/-! The scans for a call and for a name. -/

theorem slice_eq_drop_take (text : List Char) (i j : Nat) : slice text i j = (text.take j).drop i :=
  List.drop_take.symm

theorem nameStart_eq {text : List Char} {i : Nat} (h : i ≤ text.length) :
    nameStart text i = .ok (i - ((text.take i).rtakeWhile isNameChar).length) := by
  induction i with
  | zero => rfl
  | succ i ih =>
    obtain ⟨c, hc⟩ := exists_getElem? h
    have htake : text.take (i + 1) = text.take i ++ [c] := by
      rw [List.take_add_one, hc, Option.toList_some]
    rw [nameStart_succ hc, ih (Nat.le_of_succ_le h), htake, List.rtakeWhile_concat]
    split
    · rw [List.length_append, List.length_singleton, Nat.add_sub_add_right]
    · rfl

/-- From where the name begins up to the offset stands the name. -/
theorem slice_nameStart {text : List Char} {i : Nat} (h : i ≤ text.length) :
    slice text (i - ((text.take i).rtakeWhile isNameChar).length) i =
      (text.take i).rtakeWhile isNameChar := by
  have hsuffix := List.suffix_iff_eq_drop.mp (List.rtakeWhile_suffix isNameChar (text.take i))
  rw [List.length_take, Nat.min_eq_left h] at hsuffix
  rw [slice_eq_drop_take]
  exact hsuffix.symm

theorem nameStart_call {text : List Char} {i : Nat} (h : i ≤ text.length) (argument : Nat) :
    (nameStart text i >>= fun start =>
      if start < i then .ok (some ⟨slice text start i, argument⟩) else .ok none) =
      (.ok (callOf? (text.take i) ⟨i, argument⟩) : Except ScanError (Option CallContext)) := by
  have hslice := slice_nameStart h
  have hlength := (List.rtakeWhile_suffix isNameChar (text.take i)).length_le
  rw [List.length_take] at hlength
  rw [nameStart_eq h, bind_ok, hslice, callOf?, List.take_take, Nat.min_self]
  cases hname : (text.take i).rtakeWhile isNameChar with
  | nil => rw [List.length_nil, Nat.sub_zero, if_neg (Nat.lt_irrefl i)]
  | cons c name =>
    rw [hname, List.length_cons] at hlength
    rw [List.length_cons, if_pos (by omega)]

theorem nameStop_eq {text : List Char} {count i : Nat} (h : i + count = text.length) :
    nameStop text count i = .ok (i + ((text.drop i).takeWhile isNameChar).length) := by
  induction count generalizing i with
  | zero =>
    have hend : text.drop i = [] := List.drop_eq_nil_of_le (Nat.le_of_eq h.symm)
    rw [hend]
    rfl
  | succ count ih =>
    have hlt : i < text.length := by omega
    obtain ⟨c, hc⟩ := exists_getElem? hlt
    rw [nameStop_succ hc, ih (by omega), drop_eq_cons hc, List.takeWhile_cons]
    split
    · rw [List.length_cons]
      congr 1
      omega
    · rfl

theorem nameAround_eq (text : List Char) (offset : Nat) :
    nameAround text offset = wordAround text offset := by
  unfold wordAround
  split
  · rename_i hbehind
    obtain ⟨i, rfl, hread⟩ := entryAt_behind hbehind
    simp only [nameAround, nameStart, hread]
    rfl
  · rename_i hle
    have hle := Nat.not_lt.mp hle
    have hahead : (text.drop offset).take ((text.drop offset).takeWhile isNameChar).length =
        (text.drop offset).takeWhile isNameChar :=
      (List.prefix_iff_eq_take.mp (List.takeWhile_prefix _)).symm
    have hback := slice_nameStart hle
    rw [slice_eq_drop_take] at hback
    simp only [nameAround, nameStart_eq hle, nameStop_eq (Nat.add_sub_cancel' hle), bind_ok]
    rw [slice_eq_drop_take, List.take_add, hahead,
      List.drop_append_of_le_length (by rw [List.length_take]; omega), hback]
    rfl

theorem callBefore_eq {text : List Char} {i : Nat} (h : i ≤ text.length) (depth argument : Nat) :
    callBefore text i depth argument = .ok (openCall? depth argument (text.take i).reverse) := by
  induction i generalizing depth argument with
  | zero => rfl
  | succ i ih =>
    obtain ⟨c, hc⟩ := exists_getElem? h
    have hi := Nat.le_of_succ_le h
    simp only [callBefore, entryAt_eq_ok hc, bind_ok, reverse_take_succ hc]
    by_cases hclose : c = ')'
    · subst hclose
      exact ih hi (depth + 1) argument
    by_cases hopen : c = '('
    · subst hopen
      cases depth with
      | zero =>
        rw [openCall?_open, List.length_take, Nat.min_eq_left hi]
        exact nameStart_call hi argument
      | succ depth => exact ih hi depth argument
    by_cases hcomma : c = ','
    · subst hcomma
      cases depth with
      | zero => exact ih hi 0 (argument + 1)
      | succ depth => exact ih hi (depth + 1) argument
    have hcomma' : ¬ (c = ',' ∧ depth = 0) := fun h => hcomma h.1
    rw [if_neg hclose, if_neg hopen, if_neg hcomma']
    cases hend : isStatementEnd c with
    | true =>
      have hline : c = '\n' ∨ c = ';' := by simpa [isStatementEnd] using hend
      rw [if_pos hline, openCall?_end hend]
      rfl
    | false =>
      have hline : ¬ (c = '\n' ∨ c = ';') := by simpa [isStatementEnd] using hend
      rw [if_neg hline, openCall?_plain hopen hclose hcomma hend]
      exact ih hi depth argument

theorem callBefore_eq_enclosingCall (text : List Char) (offset : Nat) :
    callBefore text offset 0 0 = enclosingCall text offset := by
  unfold enclosingCall
  split
  · rename_i hbehind
    obtain ⟨i, rfl, hread⟩ := entryAt_behind hbehind
    simp only [callBefore, hread]
    rfl
  · rename_i hle
    exact callBefore_eq (Nat.not_lt.mp hle) 0 0

end PatternServer.Document
