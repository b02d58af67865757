import Mathlib.Data.List.DropRight
import Mathlib.Data.List.Induction
import PatternServer.Document.Call

/-!
# Open calls, read from the front

The call around an offset is looked for from the offset backwards, counting closed parentheses. Read
from the front instead, a statement keeps a stack of its open parentheses, each with the commas that
stand directly inside it; what is then on top is the parenthesis that the search finds. Closing
parentheses with no partner are passed over, and opening ones stay open.

Quotes mean nothing to either reading.
-/

namespace PatternServer.Document

set_option autoImplicit false

open PatternServer.Text

/-- A parenthesis that is open: its offset, and the commas directly inside it so far. -/
structure OpenParen where
  position : Nat
  commas : Nat
deriving Repr, DecidableEq, Inhabited

def OpenParen.addCommas (n : Nat) (p : OpenParen) : OpenParen :=
  { p with commas := p.commas + n }

/-- A call some arguments further on. -/
def CallContext.later (n : Nat) (call : CallContext) : CallContext :=
  { call with argument := call.argument + n }

/-- What the character at an offset does to the open parentheses, the innermost of which comes
first. -/
def readParen (offset : Nat) (c : Char) (stack : List OpenParen) : List OpenParen :=
  if c = '(' then ⟨offset, 0⟩ :: stack
  else if c = ')' then stack.tail
  else if c = ',' then stack.modifyHead (OpenParen.addCommas 1)
  else stack

/-- The parentheses that are open behind a text that begins at `offset`, given those before it. -/
def readParens (offset : Nat) (stack : List OpenParen) : List Char → List OpenParen
  | [] => stack
  | c :: rest => readParens (offset + 1) (readParen offset c stack) rest

def isStatementEnd (c : Char) : Bool :=
  c == '\n' || c == ';'

/-- The part of a text behind its last line feed or semicolon. -/
def lastStatement (s : List Char) : List Char :=
  s.rtakeWhile fun c => !isStatementEnd c

/-- The parentheses that are open at the end of a text, in its last statement. -/
def openParens (s : List Char) : List OpenParen :=
  readParens (s.length - (lastStatement s).length) [] (lastStatement s)

/-- The call that a parenthesis of a text opens: its name is the longest one that ends directly
before the parenthesis. Without a name there is no call. -/
def callOf? (text : List Char) (p : OpenParen) : Option CallContext :=
  match (text.take p.position).rtakeWhile isNameChar with
  | [] => none
  | name => some ⟨name, p.commas⟩

namespace CallContext

theorem later_zero : later 0 = id := rfl

theorem later_comp_later (m n : Nat) : later n ∘ later m = later (n + m) := by
  funext call
  simp only [Function.comp_apply, later, Nat.add_assoc, Nat.add_comm m n]

theorem later_injective (n : Nat) : Function.Injective (later n) := by
  intro a b h
  cases a
  cases b
  simpa [later] using h

end CallContext

/-! Reading on. -/

theorem readParens_append (offset : Nat) (stack : List OpenParen) (s t : List Char) :
    readParens offset stack (s ++ t) =
      readParens (offset + s.length) (readParens offset stack s) t := by
  induction s generalizing offset stack with
  | nil => rfl
  | cons c s ih =>
    rw [List.cons_append, readParens, readParens, ih, List.length_cons, Nat.add_right_comm,
      Nat.add_assoc]

theorem lastStatement_concat (s : List Char) (c : Char) :
    lastStatement (s ++ [c]) = if isStatementEnd c then [] else lastStatement s ++ [c] := by
  rw [lastStatement, List.rtakeWhile_concat]
  cases isStatementEnd c <;> rfl

theorem lastStatement_length_le (s : List Char) : (lastStatement s).length ≤ s.length :=
  (List.rtakeWhile_suffix _ _).length_le

theorem openParens_concat_end {c : Char} (h : isStatementEnd c = true) (s : List Char) :
    openParens (s ++ [c]) = [] := by
  rw [openParens, lastStatement_concat, if_pos h, readParens]

theorem openParens_concat {c : Char} (h : isStatementEnd c = false) (s : List Char) :
    openParens (s ++ [c]) = readParen s.length c (openParens s) := by
  have hlength := lastStatement_length_le s
  have hstart : (s ++ [c]).length - (lastStatement s ++ [c]).length =
      s.length - (lastStatement s).length := by
    simp only [List.length_append, List.length_singleton]
    omega
  rw [openParens, lastStatement_concat, h]
  simp only [Bool.false_eq_true, if_false]
  rw [hstart, readParens_append, Nat.sub_add_cancel hlength]
  rfl

/-- A parenthesis that is open behind a character is the character itself or was open before. -/
theorem position_of_mem_readParen {offset : Nat} {c : Char} {stack : List OpenParen} {p : OpenParen}
    (h : p ∈ readParen offset c stack) :
    p.position = offset ∨ ∃ q ∈ stack, q.position = p.position := by
  unfold readParen at h
  split at h
  · rcases List.mem_cons.mp h with rfl | h
    · exact Or.inl rfl
    · exact Or.inr ⟨p, h, rfl⟩
  · split at h
    · exact Or.inr ⟨p, List.mem_of_mem_tail h, rfl⟩
    · split at h
      · cases stack with
        | nil => simp at h
        | cons top rest =>
          rcases List.mem_cons.mp h with rfl | h
          · exact Or.inr ⟨top, List.mem_cons_self, rfl⟩
          · exact Or.inr ⟨p, List.mem_cons_of_mem _ h, rfl⟩
      · exact Or.inr ⟨p, h, rfl⟩

theorem position_lt_of_mem_openParens {s : List Char} {p : OpenParen} (h : p ∈ openParens s) :
    p.position < s.length := by
  induction s using List.reverseRecOn generalizing p with
  | nil => simp [openParens, lastStatement, readParens] at h
  | append_singleton s c ih =>
    rw [List.length_append, List.length_singleton]
    cases hc : isStatementEnd c with
    | true =>
      rw [openParens_concat_end hc] at h
      simp at h
    | false =>
      rw [openParens_concat hc] at h
      rcases position_of_mem_readParen h with hp | ⟨q, hq, hp⟩
      · omega
      · have := ih hq
        omega

/-! The search from the end. -/

theorem callOf?_append {s : List Char} {p : OpenParen} (h : p.position ≤ s.length)
    (t : List Char) : callOf? (s ++ t) p = callOf? s p := by
  rw [callOf?, callOf?, List.take_append_of_le_length h]

theorem callOf?_addCommas (s : List Char) (n : Nat) (p : OpenParen) :
    callOf? s (p.addCommas n) = (callOf? s p).map (CallContext.later n) := by
  have hposition : (p.addCommas n).position = p.position := rfl
  rw [callOf?, callOf?, hposition]
  cases (s.take p.position).rtakeWhile isNameChar <;> rfl

theorem bind_addCommas (s : List Char) (n : Nat) (p : Option OpenParen) :
    (p.map (OpenParen.addCommas n)).bind (callOf? s) =
      (p.bind (callOf? s)).map (CallContext.later n) := by
  cases p with
  | none => rfl
  | some p => exact callOf?_addCommas s n p

/-- The calls of the parentheses open in a text are told by that text. -/
theorem bind_callOf?_append (s t : List Char) (depth : Nat) :
    ((openParens s)[depth]?).bind (callOf? (s ++ t)) =
      ((openParens s)[depth]?).bind (callOf? s) := by
  apply Option.bind_congr
  intro p hp
  have hlt := position_lt_of_mem_openParens (List.mem_of_getElem? hp)
  exact callOf?_append (Nat.le_of_lt hlt) t

theorem openCall?_end {c : Char} (h : isStatementEnd c = true) (depth argument : Nat)
    (before : List Char) : openCall? depth argument (c :: before) = none := by
  have hc : c = '\n' ∨ c = ';' := by simpa [isStatementEnd] using h
  rcases hc with rfl | rfl <;> rfl

theorem openCall?_plain {c : Char} (hopen : c ≠ '(') (hclose : c ≠ ')') (hcomma : c ≠ ',')
    (hend : isStatementEnd c = false) (depth argument : Nat) (before : List Char) :
    openCall? depth argument (c :: before) = openCall? depth argument before := by
  have hline : ¬ (c = '\n' ∨ c = ';') := by simpa [isStatementEnd] using hend
  rw [openCall?.eq_def]
  simp only [if_neg hclose, if_neg hopen, hcomma, false_and, if_false, if_neg hline]

theorem openCall?_open (argument : Nat) (s : List Char) :
    openCall? 0 argument ('(' :: s.reverse) = callOf? s ⟨s.length, argument⟩ := by
  rw [openCall?.eq_def, callOf?, List.take_length, List.rtakeWhile]
  rfl

/-- A search that has passed `depth` closing parentheses and counted `argument` commas outside of
them finds the parenthesis that many levels out, and those commas count for it too. -/
theorem openCall?_reverse (s : List Char) (depth argument : Nat) :
    openCall? depth argument s.reverse =
      (((openParens s)[depth]?).bind (callOf? s)).map (CallContext.later argument) := by
  -- From the end of the text, and for every depth: behind a closing parenthesis the search goes on
  -- one level further out, in the stack that was there before the parenthesis was read.
  induction s using List.reverseRecOn generalizing depth argument with
  | nil => rfl
  | append_singleton s c ih =>
    rw [List.reverse_append, List.reverse_singleton, List.singleton_append]
    cases hend : isStatementEnd c with
    | true =>
      rw [openParens_concat_end hend, openCall?_end hend]
      rfl
    | false =>
      rw [openParens_concat hend]
      by_cases hopen : c = '('
      · subst hopen
        rw [readParen, if_pos rfl]
        cases depth with
        | zero =>
          rw [openCall?_open, List.getElem?_cons_zero, Option.bind_some,
            callOf?_append (Nat.le_refl _), ← callOf?_addCommas, OpenParen.addCommas, Nat.zero_add]
        | succ depth =>
          rw [List.getElem?_cons_succ, bind_callOf?_append, ← ih]
          rfl
      by_cases hclose : c = ')'
      · subst hclose
        rw [readParen, if_neg hopen, if_pos rfl, List.getElem?_tail, bind_callOf?_append, ← ih]
        rfl
      by_cases hcomma : c = ','
      · subst hcomma
        rw [readParen, if_neg hopen, if_neg hclose, if_pos rfl]
        cases depth with
        | zero =>
          have htop : ((openParens s).modifyHead (OpenParen.addCommas 1))[0]? =
              ((openParens s)[0]?).map (OpenParen.addCommas 1) := by
            cases openParens s <;> rfl
          rw [htop, bind_addCommas, bind_callOf?_append, Option.map_map,
            CallContext.later_comp_later, ← ih]
          rfl
        | succ depth =>
          have hrest : ((openParens s).modifyHead (OpenParen.addCommas 1))[depth + 1]? =
              (openParens s)[depth + 1]? := by
            cases openParens s <;> rfl
          rw [hrest, bind_callOf?_append, ← ih]
          rfl
      · rw [readParen, if_neg hopen, if_neg hclose, if_neg hcomma, bind_callOf?_append, ← ih,
          openCall?_plain hopen hclose hcomma hend]

/-- The call around an offset is the call of the parenthesis that is on top of the stack, once the
statement has been read from its front up to the offset. -/
theorem enclosingCall_eq_top {text : List Char} {offset : Nat} (h : offset ≤ text.length) :
    enclosingCall text offset =
      .ok ((openParens (text.take offset)).head?.bind (callOf? text)) := by
  have hsearch := openCall?_reverse (text.take offset) 0 0
  have hcalls := bind_callOf?_append (text.take offset) (text.drop offset) 0
  rw [List.take_append_drop] at hcalls
  rw [CallContext.later_zero, Option.map_id, id_eq, ← hcalls, ← List.head?_eq_getElem?] at hsearch
  rw [enclosingCall, if_neg (Nat.not_lt.mpr h), hsearch]

/-- Closing parentheses without a partner in front, and a nested call. -/
theorem enclosingCall_eq_top_nested :
    let text := "1); x), stack(s(\"bd\").fast(2), ".toList
    31 ≤ text.length ∧
      enclosingCall text 31 = .ok ((openParens (text.take 31)).head?.bind (callOf? text)) ∧
      enclosingCall text 31 = .ok (some ⟨"stack".toList, 1⟩) := by
  intro text
  have hoffset : 31 ≤ text.length := by decide
  exact ⟨hoffset, enclosingCall_eq_top hoffset, by decide⟩

end PatternServer.Document
