import PatternServer.Notation.Quoting
import PatternServer.Proofs.LiteralCover

/-!
# Quoted bodies read back

The quoted form of a body is one literal, from its first quote to its last, and it ends there
whatever follows. With each backslash and the character behind it taken together again, the body of
that literal is the body that was quoted.

Quoting goes character by character. Two passes over the whole body, one for the backslashes and
then one for the quotes, come to the same: the second one finds no quotes but those of the body, and
the backslashes that it writes are not looked at again.
-/

namespace PatternServer.Notation

set_option autoImplicit false

open PatternServer.Document

/-- A text with another one in every place of a character. -/
def replaceChar (c : Char) (form s : List Char) : List Char :=
  s.flatMap fun d => if d = c then form else [d]

/-- A body quoted in two passes. -/
def quoteByPasses (body : List Char) : List Char :=
  let slashed := replaceChar '\\' ['\\', '\\'] body
  '"' :: replaceChar '"' ['\\', '"'] slashed ++ ['"']

/-- A text with the character alone in place of each backslash and the character behind it. A
backslash at the very end stays. -/
def unescape : List Char → List Char
  | [] => []
  | c :: rest =>
    if c = '\\' then
      match rest with
      | [] => ['\\']
      | d :: rest => d :: unescape rest
    else c :: unescape rest

theorem escapeBody_cons (c : Char) (s : List Char) :
    escapeBody (c :: s) = quoteChar c ++ escapeBody s := List.flatMap_cons

theorem escapeBody_special {c : Char} (h : c = '\\' ∨ c = '"') (s : List Char) :
    escapeBody (c :: s) = '\\' :: c :: escapeBody s := by
  rw [escapeBody_cons, quoteChar, if_pos h]
  rfl

theorem escapeBody_plain {c : Char} (h : ¬ (c = '\\' ∨ c = '"')) (s : List Char) :
    escapeBody (c :: s) = c :: escapeBody s := by
  rw [escapeBody_cons, quoteChar, if_neg h]
  rfl

/-! Two passes. -/

theorem replaceChar_append (c : Char) (form s t : List Char) :
    replaceChar c form (s ++ t) = replaceChar c form s ++ replaceChar c form t :=
  List.flatMap_append

theorem replaceChar_cons (c : Char) (form : List Char) (d : Char) (s : List Char) :
    replaceChar c form (d :: s) = (if d = c then form else [d]) ++ replaceChar c form s :=
  List.flatMap_cons

/-- What the two passes make of one character. -/
theorem replaceChar_quoteChar (c : Char) :
    replaceChar '"' ['\\', '"'] (if c = '\\' then ['\\', '\\'] else [c]) = quoteChar c := by
  by_cases hslash : c = '\\'
  · subst hslash
    decide
  · rw [if_neg hslash]
    by_cases hquote : c = '"'
    · subst hquote
      decide
    · simp [replaceChar, quoteChar, hslash, hquote]

theorem quoteByPasses_eq (body : List Char) : quoteByPasses body = quoteBody body := by
  have hpasses : replaceChar '"' ['\\', '"'] (replaceChar '\\' ['\\', '\\'] body) =
      escapeBody body := by
    induction body with
    | nil => rfl
    | cons c body ih =>
      rw [replaceChar_cons, replaceChar_append, replaceChar_quoteChar, ih, escapeBody_cons]
  simp only [quoteByPasses, hpasses, quoteBody]

/-! Reading back. -/

theorem unescape_escape (c : Char) (s : List Char) :
    unescape ('\\' :: c :: s) = c :: unescape s := by
  simp [unescape]

theorem unescape_plain {c : Char} (hc : c ≠ '\\') (s : List Char) :
    unescape (c :: s) = c :: unescape s := by
  rw [unescape.eq_def]
  simp only [if_neg hc]

theorem unescape_escapeBody (body : List Char) : unescape (escapeBody body) = body := by
  induction body with
  | nil => rfl
  | cons c body ih =>
    by_cases hc : c = '\\' ∨ c = '"'
    · rw [escapeBody_special hc, unescape_escape, ih]
    · rw [escapeBody_plain hc, unescape_plain (fun h => hc (Or.inl h)), ih]

/-- An escaped body is made of items, so that no quote in it can close a literal. -/
theorem items_escapeBody (body : List Char) : Items '"' (escapeBody body) := by
  induction body with
  | nil => exact Items.nil
  | cons c body ih =>
    by_cases hc : c = '\\' ∨ c = '"'
    · rw [escapeBody_special hc]
      exact Items.escape c ih
    · rw [escapeBody_plain hc]
      exact Items.plain (fun h => hc (Or.inl h)) (fun h => hc (Or.inr h)) ih

theorem bodyLength?_escapeBody (body rest : List Char) :
    bodyLength? '"' (escapeBody body ++ '"' :: rest) = some (escapeBody body).length := by
  rw [bodyLength?_eq_some_iff (by decide), List.take_left]
  exact ⟨by simp, items_escapeBody body⟩

theorem length_quoteBody (body : List Char) :
    (quoteBody body).length = (escapeBody body).length + 2 := by
  simp [quoteBody]

/-- The quoted form is read as one literal, and the scan goes on behind it. -/
theorem literalsFrom_quoteBody (offset : Nat) (body rest : List Char) :
    literalsFrom offset (quoteBody body ++ rest) =
      ⟨escapeBody body, offset + 1, '"'⟩ ::
        literalsFrom (offset + (quoteBody body).length) rest := by
  have hform : quoteBody body ++ rest = '"' :: (escapeBody body ++ '"' :: rest) := by
    simp [quoteBody]
  rw [hform, literalsFrom, if_pos (by decide), bodyLength?_escapeBody, length_quoteBody]
  simp only [List.take_left, ← List.drop_drop, List.drop_left, List.drop_one, List.tail_cons,
    Nat.add_assoc]

theorem literals_quoteBody (body : List Char) :
    literals (quoteBody body) = [⟨escapeBody body, 1, '"'⟩] := by
  have hread := literalsFrom_quoteBody 0 body []
  rwa [List.append_nil, literalsFrom] at hread

theorem quoteBody_injective : Function.Injective quoteBody := by
  intro a b hab
  have hsame : [Literal.mk (escapeBody a) 1 '"'] = [Literal.mk (escapeBody b) 1 '"'] := by
    rw [← literals_quoteBody, ← literals_quoteBody, hab]
  have hbody : escapeBody a = escapeBody b := by simpa using hsame
  rw [← unescape_escapeBody a, ← unescape_escapeBody b, hbody]

/-- Quoting loses nothing and shows its own end. Every quoted form is one literal in double quotes
that reaches from its front to its end, also with more text behind it, and the body comes back from
it; so no two bodies have the same quoted form. Two passes of replacement write the same form. -/
theorem quoteBody_lossless :
    (∀ body, ∃ l, literals (quoteBody body) = [l] ∧ l.quote = '"' ∧ l.start = 1 ∧
      l.stop = (quoteBody body).length - 1 ∧ unescape l.body = body ∧
      ∀ rest, literals (quoteBody body ++ rest) =
        l :: literalsFrom (quoteBody body).length rest) ∧
    (∀ body, quoteByPasses body = quoteBody body) ∧
    Function.Injective quoteBody := by
  refine ⟨?_, quoteByPasses_eq, quoteBody_injective⟩
  intro body
  refine ⟨_, literals_quoteBody body, rfl, rfl, ?_, unescape_escapeBody body, ?_⟩
  · simp only [Literal.stop, length_quoteBody]
    omega
  · intro rest
    have hread := literalsFrom_quoteBody 0 body rest
    rwa [Nat.zero_add, Nat.zero_add] at hread

/-- Backslashes and quotes in a row, at the end of the body too. -/
example : literals (quoteBody "\\\"\\\\".toList) = [⟨"\\\\\\\"\\\\\\\\".toList, 1, '"'⟩] := by
  decide +kernel

end PatternServer.Notation
