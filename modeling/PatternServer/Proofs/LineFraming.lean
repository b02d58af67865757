import Mathlib.Logic.ExistsUnique
import PatternServer.Proofs.ClientRuns
import PatternServer.Proofs.Utf8Decoding

/-!
# Lines of received text

A text is made of lines that have ended and of what follows the last line end, in one way only.
Text that is fed to a client in pieces is cut into the lines of the whole text: the client handles
the lines that have ended, in order, and keeps the rest. What the lines do to the registry depends
only on the messages among them.

The bytes from which the text comes, and the sessions that receive them, come in at the end and in a
module of their own.
-/

namespace PatternServer.Engine

set_option autoImplicit false

open PatternServer.Text PatternServer.Vocabulary

/-! Lines of a text. -/

/-- The lines of a text that have ended, and what follows them. -/
structure Lines (text : List Char) (lines : List (List Char)) (last : List Char) : Prop where
  eq : text = lines.flatMap (· ++ ['\n']) ++ last
  lines_free : ∀ line ∈ lines, '\n' ∉ line
  last_free : '\n' ∉ last

namespace Lines

variable {text more last last' : List Char} {lines lines' : List (List Char)}

theorem exists_lines (text : List Char) : ∃ lines last, Lines text lines last := by
  induction text with
  | nil => exact ⟨[], [], rfl, by simp, by simp⟩
  | cons c text ih =>
    obtain ⟨lines, last, h⟩ := ih
    by_cases hc : c = '\n'
    · subst hc
      exact ⟨[] :: lines, last, by simp [← h.eq], by simpa using h.lines_free, h.last_free⟩
    · cases lines with
      | nil =>
        refine ⟨[], c :: last, by simpa using h.eq, by simp, ?_⟩
        simpa [Ne.symm hc] using h.last_free
      | cons line lines =>
        refine ⟨(c :: line) :: lines, last, by simp [h.eq], ?_, h.last_free⟩
        simpa [Ne.symm hc] using h.lines_free

theorem splitOn_free (h : '\n' ∉ last) : splitOn '\n' last = [last] := by
  induction last with
  | nil => rfl
  | cons c last ih =>
    obtain ⟨hc, hlast⟩ := List.ne_and_not_mem_of_not_mem_cons h
    simp [splitOn, Ne.symm hc, ih hlast]

theorem splitOn_line {line : List Char} (h : '\n' ∉ line) (rest : List Char) :
    splitOn '\n' (line ++ '\n' :: rest) = line :: splitOn '\n' rest := by
  induction line with
  | nil => simp [splitOn]
  | cons c line ih =>
    obtain ⟨hc, hline⟩ := List.ne_and_not_mem_of_not_mem_cons h
    simp [splitOn, Ne.symm hc, ih hline]

/-- The lines and what follows them are the pieces between line ends. -/
theorem splitOn_eq (h : Lines text lines last) : splitOn '\n' text = lines ++ [last] := by
  obtain ⟨rfl, hlines, hlast⟩ := h
  induction lines with
  | nil => exact splitOn_free hlast
  | cons line lines ih =>
    have hrest := ih fun l hl => hlines l (List.mem_cons_of_mem line hl)
    rw [List.flatMap_cons, List.append_assoc, List.append_assoc, List.singleton_append,
      splitOn_line (hlines line List.mem_cons_self), hrest]
    rfl

theorem unique (h : Lines text lines last) (h' : Lines text lines' last') :
    lines = lines' ∧ last = last' := by
  have heq : lines ++ [last] = lines' ++ [last'] := h.splitOn_eq.symm.trans h'.splitOn_eq
  simpa using heq

/-- More text goes on with the last line. -/
theorem append (h : Lines text lines last) (h' : Lines (last ++ more) lines' last') :
    Lines (text ++ more) (lines ++ lines') last' where
  eq := by
    rw [h.eq, List.append_assoc, h'.eq, List.flatMap_append, List.append_assoc]
  lines_free := by
    intro line hline
    rcases List.mem_append.mp hline with hline | hline
    · exact h.lines_free line hline
    · exact h'.lines_free line hline
  last_free := h'.last_free

/-- Text without a line end behind a text ends no line. -/
theorem append_free (h : Lines text lines last) (hmore : '\n' ∉ more) :
    Lines (text ++ more) lines (last ++ more) where
  eq := by rw [h.eq, List.append_assoc]
  lines_free := h.lines_free
  last_free := by simp [h.last_free, hmore]

end Lines

/-! What lines do. -/

/-- The messages among lines. -/
def messages (nesting : Nat) (lines : List (List Char)) : List Message :=
  lines.filterMap fun line => (Message.ofLine? nesting line).toOption.join

/-- The registries that messages lead to, one after the other. -/
def registriesAfter (r : Registry) : List Message → List Registry
  | [] => []
  | m :: ms => m.apply r :: registriesAfter (m.apply r) ms

/-- The registry that messages lead to in the end. -/
def registryAfter (r : Registry) (ms : List Message) : Registry :=
  ms.foldl (fun r m => m.apply r) r

theorem messages_append {nesting : Nat} (lines lines' : List (List Char)) :
    messages nesting (lines ++ lines') = messages nesting lines ++ messages nesting lines' :=
  List.filterMap_append

@[simp] theorem registryAfter_nil (r : Registry) : registryAfter r [] = r := rfl

@[simp] theorem registryAfter_cons (r : Registry) (m : Message) (ms : List Message) :
    registryAfter r (m :: ms) = registryAfter (m.apply r) ms := rfl

theorem registryAfter_append (r : Registry) (ms ns : List Message) :
    registryAfter r (ms ++ ns) = registryAfter (registryAfter r ms) ns := List.foldl_append

theorem registriesAfter_append (r : Registry) (ms ns : List Message) :
    registriesAfter r (ms ++ ns) =
      registriesAfter r ms ++ registriesAfter (registryAfter r ms) ns := by
  induction ms generalizing r with
  | nil => rfl
  | cons m ms ih => simp [registriesAfter, ih]

/-- No line fails when lines are handled one after the other: each can be read, and nothing goes
wrong when someone is told of the change that it makes. -/
def NoneFails (hear : Listener) (nesting : Nat) (announces : Bool) :
    Registry → List (List Char) → Prop
  | _, [] => True
  | r, line :: rest =>
    match Message.ofLine? nesting line with
    | .error _ => False
    | .ok none => NoneFails hear nesting announces r rest
    | .ok (some m) =>
      (announces = true → hear (m.apply r) = none) ∧
        NoneFails hear nesting announces (m.apply r) rest

namespace Client

/-- What has been told of the registry, if anyone is told. -/
def toldOf (c : Client) (registries : List Registry) : List Registry :=
  if c.settings.announces then registries else []

/-- A client that has handled lines, with the rest of the text in its buffer. -/
def afterLines (c : Client) (lines : List (List Char)) (rest : List Char) : Client :=
  { c with
    registry := registryAfter c.registry (messages c.nesting lines)
    announced := c.announced ++ c.toldOf (registriesAfter c.registry (messages c.nesting lines))
    buffer := rest }

/-- The lines that are handed on when pieces of text are: those that are not blank, up to one that
fails. The last piece is no line yet. -/
def handedOn (hear : Listener) (c : Client) : List (List Char) → List (List Char)
  | [] => []
  | [_] => []
  | line :: rest =>
    let later :=
      match c.handleLine hear line with
      | (c, none) => c.handedOn hear rest
      | (_, some _) => []
    if isAllBlank line then later else line :: later

/-- A line that does not fail has been handled. -/
theorem handleLine_eq (hear : Listener) (c : Client) (line : List Char)
    (h : (c.handleLine hear line).2 = none) :
    (c.handleLine hear line).1 = c.afterLines [line] c.buffer := by
  unfold handleLine at h ⊢
  cases hline : Message.ofLine? c.nesting line with
  | error e => simp [hline] at h
  | ok found =>
    cases found with
    | none => simp [afterLines, messages, hline, toldOf, registriesAfter, Except.toOption]
    | some m =>
      by_cases hannounces : c.settings.announces = true <;>
        simp [afterLines, messages, hline, toldOf, registriesAfter, accept, hannounces,
          Except.toOption]

theorem afterLines_afterLines (c : Client) (lines lines' : List (List Char))
    (rest rest' : List Char) :
    (c.afterLines lines rest).afterLines lines' rest' = c.afterLines (lines ++ lines') rest' := by
  by_cases h : c.settings.announces = true <;>
    simp [afterLines, toldOf, messages_append, registryAfter_append, registriesAfter_append, h]

/-- Pieces of which no line fails. -/
theorem handlePieces_eq (hear : Listener) (c : Client) (lines : List (List Char))
    (last : List Char) (h : (c.handlePieces hear (lines ++ [last])).2 = none) :
    (c.handlePieces hear (lines ++ [last])).1 = c.afterLines lines last ∧
      c.handedOn hear (lines ++ [last]) = lines.filter fun line => !isAllBlank line := by
  induction lines generalizing c with
  | nil => simp [handlePieces, handedOn, afterLines, messages, toldOf, registriesAfter]
  | cons line lines ih =>
    obtain ⟨next, rest, hrest⟩ : ∃ next rest, lines ++ [last] = next :: rest :=
      List.exists_cons_of_ne_nil (by simp)
    rw [List.cons_append, hrest] at h ⊢
    cases hline : c.handleLine hear line with
    | mk c' failed =>
      cases failed with
      | some e => simp [handlePieces, hline] at h
      | none =>
        have hc' : c' = c.afterLines [line] c.buffer := by
          have heq := handleLine_eq hear c line (by rw [hline])
          rwa [hline] at heq
        simp only [handlePieces, hline] at h ⊢
        rw [← hrest] at h ⊢
        obtain ⟨heq, hhanded⟩ := ih c' h
        refine ⟨?_, ?_⟩
        · rw [heq, hc', afterLines_afterLines, List.singleton_append]
        · rw [hrest, handedOn, hline, ← hrest]
          · simp only [hhanded, List.filter_cons]
            cases isAllBlank line <;> rfl
          · simp

/-- Of lines that do not fail, the first does not, and neither do the others behind it. -/
theorem noneFails_cons (hear : Listener) (c : Client) (line : List Char)
    (lines : List (List Char))
    (h : NoneFails hear c.nesting c.settings.announces c.registry (line :: lines)) :
    (c.handleLine hear line).2 = none ∧
      NoneFails hear (c.handleLine hear line).1.nesting
        (c.handleLine hear line).1.settings.announces
        (c.handleLine hear line).1.registry lines := by
  unfold NoneFails at h
  unfold handleLine
  cases hline : Message.ofLine? c.nesting line with
  | error e => simp [hline] at h
  | ok found =>
    rw [hline] at h
    cases found with
    | none => exact ⟨rfl, h⟩
    | some m =>
      obtain ⟨hheard, hlines⟩ := h
      by_cases hannounces : c.settings.announces = true
      · simp only [accept, hannounces, if_true, hheard hannounces, Option.map_none, true_and]
        rwa [hannounces] at hlines
      · simp only [accept, if_neg hannounces, Option.map_none, true_and]
        exact hlines

/-- Pieces are handled to their end if no line among them fails. -/
theorem handlePieces_of_noneFails (hear : Listener) (c : Client) (lines : List (List Char))
    (last : List Char) (h : NoneFails hear c.nesting c.settings.announces c.registry lines) :
    (c.handlePieces hear (lines ++ [last])).2 = none := by
  induction lines generalizing c with
  | nil => rfl
  | cons line lines ih =>
    obtain ⟨next, rest, hrest⟩ : ∃ next rest, lines ++ [last] = next :: rest :=
      List.exists_cons_of_ne_nil (by simp)
    obtain ⟨hline, hlines⟩ := noneFails_cons hear c line lines h
    cases hc' : c.handleLine hear line with
    | mk c' failed =>
      rw [hc'] at hline hlines
      subst hline
      have hlater := ih c' hlines
      rw [List.cons_append, hrest, handlePieces, hc', ← hrest]
      · exact hlater
      · simp

/-! Received bytes. -/

/-- The lines that are handed on when bytes are received. -/
def bytesHandedOn (hear : Listener) (c : Client) (bytes : List UInt8) : List (List Char) :=
  ({ c with decoder := (Utf8.decodePiece c.decoder bytes).2 }).handedOn hear
    (splitOn '\n' (c.buffer ++ (Utf8.decodePiece c.decoder bytes).1))

section Bytes
variable {hear : Listener} {c : Client} {bytes : List UInt8} {lines : List (List Char)}
  {last : List Char}

/-- Bytes of which no line fails complete lines, which are handled, and leave the rest of the
text. -/
theorem feedBytes_eq (hlines : Lines (c.buffer ++ (Utf8.decodePiece c.decoder bytes).1) lines last)
    (h : (c.feedBytes hear bytes).2 = none) :
    (c.feedBytes hear bytes).1 =
        { c.afterLines lines last with decoder := (Utf8.decodePiece c.decoder bytes).2 } ∧
      c.bytesHandedOn hear bytes = lines.filter fun line => !isAllBlank line := by
  simp only [feedBytes, feed, bytesHandedOn, hlines.splitOn_eq] at h ⊢
  exact handlePieces_eq hear _ lines last h

theorem feedBytes_of_noneFails
    (hlines : Lines (c.buffer ++ (Utf8.decodePiece c.decoder bytes).1) lines last)
    (h : NoneFails hear c.nesting c.settings.announces c.registry lines) :
    (c.feedBytes hear bytes).2 = none := by
  simp only [feedBytes, feed, hlines.splitOn_eq]
  exact handlePieces_of_noneFails hear _ lines last h

end Bytes

end Client

theorem noneFails_append (hear : Listener) (nesting : Nat) (announces : Bool) (r : Registry)
    (lines lines' : List (List Char)) :
    NoneFails hear nesting announces r (lines ++ lines') ↔
      NoneFails hear nesting announces r lines ∧
        NoneFails hear nesting announces (registryAfter r (messages nesting lines)) lines' := by
  induction lines generalizing r with
  | nil => simp [NoneFails, messages]
  | cons line lines ih =>
    rw [List.cons_append, ← List.singleton_append (l := lines), messages_append]
    simp only [NoneFails, List.singleton_append]
    cases hline : Message.ofLine? nesting line with
    | error e => simp
    | ok found =>
      cases found with
      | none => simpa [messages, hline, Except.toOption] using ih r
      | some m => simp [messages, hline, Except.toOption, ih, and_assoc]

/-- The lines of the text that bytes stand for. -/
def Framed (stream : List UInt8) (lines : List (List Char)) : Prop :=
  ∃ text last, Utf8.Decodes stream text ∧ Lines text lines last

/-- A character that is cut off at the end of the bytes ends no line. -/
theorem framed_iff {stream : List UInt8} {lines : List (List Char)} :
    Framed stream lines ↔ ∃ last, Lines (Utf8.decodePiece .ground stream).1 lines last := by
  have htail : ∃ tail, '\n' ∉ tail ∧
      Utf8.decodeReplacing stream = (Utf8.decodePiece .ground stream).1 ++ tail := by
    refine ⟨_, ?_, rfl⟩
    split
    · simp
    · decide
  obtain ⟨tail, htail, hdecode⟩ := htail
  constructor
  · rintro ⟨text, last, htext, hlines⟩
    obtain ⟨lines', last', hlines'⟩ := Lines.exists_lines (Utf8.decodePiece .ground stream).1
    have hwhole := hlines'.append_free htail
    rw [← hdecode, Utf8.decodes_iff.mp htext] at hwhole
    exact ⟨last', (hlines.unique hwhole).1 ▸ hlines'⟩
  · rintro ⟨last, hlines⟩
    have hwhole := hlines.append_free htail
    rw [← hdecode] at hwhole
    exact ⟨_, _, Utf8.decodes_iff.mpr rfl, hwhole⟩

theorem Framed.unique {stream : List UInt8} {lines lines' : List (List Char)}
    (h : Framed stream lines) (h' : Framed stream lines') : lines = lines' := by
  obtain ⟨last, hlines⟩ := framed_iff.mp h
  obtain ⟨last', hlines'⟩ := framed_iff.mp h'
  exact (hlines.unique hlines').1

theorem existsUnique_framed (stream : List UInt8) : ∃! lines, Framed stream lines := by
  obtain ⟨lines, last, h⟩ := Lines.exists_lines (Utf8.decodePiece .ground stream).1
  have hframed : Framed stream lines := framed_iff.mpr ⟨last, h⟩
  exact ⟨lines, hframed, fun lines' h' => h'.unique hframed⟩

end PatternServer.Engine
