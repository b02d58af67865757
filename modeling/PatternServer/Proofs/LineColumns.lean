import Mathlib.Order.Bounds.Defs
import PatternServer.Document.Change
import PatternServer.Proofs.PositionInverse

/-!
# Lines and columns

A line of a text lies between the line feeds around it, and the positions of its offsets are its
columns, counted in units of the encoding. Positions are in the order of their offsets and lead back
to them. A position that belongs to no offset is brought into its line and then rounded up: its
offset is the least one of the line whose column is not smaller.

An editor's own walk over a line takes a carriage return with its line feed for one character. On a
column that has been brought into the line it comes to the same offset.
-/

namespace PatternServer.Document

set_option autoImplicit false

/-! Columns of one line. -/

namespace Encoding

variable (e : Encoding)

theorem units_take_le (s : List Char) (k : Nat) : e.units (s.take k) ≤ e.units s := by
  have hsplit := e.units_append (s.take k) (s.drop k)
  rw [List.take_append_drop] at hsplit
  omega

theorem length_le_units (s : List Char) : s.length ≤ e.units s := by
  induction s with
  | nil => simp
  | cons c s ih =>
    have hw := e.width_pos c
    rw [List.length_cons, units_cons]
    omega

/-- So many characters of a line are enough for a column just when they take as many units as are
wanted, or all that the line has. -/
theorem charsFor_le_iff (s : List Char) (wanted k : Nat) :
    e.charsFor s wanted ≤ k ↔ min wanted (e.units s) ≤ e.units (s.take k) := by
  induction s generalizing wanted k with
  | nil => simp [charsFor]
  | cons c s ih =>
    have hw := e.width_pos c
    by_cases hwanted : wanted = 0
    · simp [charsFor, hwanted]
    · cases k with
      | zero =>
        simp only [charsFor, if_neg hwanted, List.take_zero, units_nil, units_cons]
        omega
      | succ k =>
        have hrest := ih (wanted - e.width c) k
        simp only [charsFor, if_neg hwanted, List.take_succ_cons, units_cons]
        omega

theorem charsFor_le_length (s : List Char) (wanted : Nat) : e.charsFor s wanted ≤ s.length := by
  rw [charsFor_le_iff, List.take_length]
  exact Nat.min_le_right _ _

theorem charsFor_mono (s : List Char) {m n : Nat} (h : m ≤ n) :
    e.charsFor s m ≤ e.charsFor s n := by
  have hn := (e.charsFor_le_iff s n (e.charsFor s n)).mp (Nat.le_refl _)
  rw [charsFor_le_iff]
  omega

theorem charsFor_min (s : List Char) (wanted : Nat) :
    e.charsFor s (min wanted (e.units s)) = e.charsFor s wanted := by
  have hiff : ∀ k, e.charsFor s (min wanted (e.units s)) ≤ k ↔ e.charsFor s wanted ≤ k := by
    intro k
    rw [charsFor_le_iff, charsFor_le_iff, Nat.min_assoc, Nat.min_self]
  exact Nat.le_antisymm ((hiff _).mpr (Nat.le_refl _)) ((hiff _).mp (Nat.le_refl _))

theorem charsFor_append {s : List Char} (t : List Char) {wanted : Nat} (h : wanted ≤ e.units s) :
    e.charsFor (s ++ t) wanted = e.charsFor s wanted := by
  induction s generalizing wanted with
  | nil =>
    have hwanted : wanted = 0 := Nat.le_zero.mp h
    subst hwanted
    cases t <;> rfl
  | cons c s ih =>
    rw [units_cons] at h
    rw [List.cons_append, charsFor, charsFor, ih (by omega)]

/-- The last character is walked over at once, whatever its width. -/
theorem charsFor_concat (s : List Char) (c d : Char) (wanted : Nat) :
    e.charsFor (s ++ [c]) wanted = e.charsFor (s ++ [d]) wanted := by
  induction s generalizing wanted with
  | nil => rfl
  | cons a s ih => rw [List.cons_append, List.cons_append, charsFor, charsFor, ih]

theorem width_carriageReturn : e.width '\r' = e.width '\n' := by
  cases e <;> rfl

end Encoding

/-! The walk over a line whose line end is one character. -/

theorem plainLine_cons {c : Char} {s : List Char} (h : s ≠ ['\n']) :
    plainLine (c :: s) = c :: plainLine s := by
  rw [plainLine]
  rintro -
  exact h

theorem plainLine_append (s : List Char) {t : List Char} (h : 1 < t.length) :
    plainLine (s ++ t) = s ++ plainLine t := by
  induction s with
  | nil => rfl
  | cons c s ih =>
    have hne : s ++ t ≠ ['\n'] := by
      intro heq
      have hlength := congrArg List.length heq
      simp only [List.length_append, List.length_singleton] at hlength
      omega
    rw [List.cons_append, plainLine_cons hne, ih, List.cons_append]

theorem plainLine_of_free {s : List Char} (h : '\n' ∉ s) : plainLine s = s := by
  induction s with
  | nil => rfl
  | cons c s ih =>
    obtain ⟨_, hs⟩ := List.ne_and_not_mem_of_not_mem_cons h
    have hne : s ≠ ['\n'] := by
      rintro rfl
      exact hs List.mem_cons_self
    rw [plainLine_cons hne, ih hs]

theorem plainLine_append_feed {s : List Char} (h : s.getLast? ≠ some '\r') :
    plainLine (s ++ ['\n']) = s ++ ['\n'] := by
  rcases List.eq_nil_or_concat' s with rfl | ⟨front, c, rfl⟩
  · rfl
  · have hc : c ≠ '\r' := by simpa using h
    have hpair : plainLine [c, '\n'] = [c, '\n'] := by
      rw [plainLine]
      · rfl
      · intro hreturn
        exact absurd hreturn hc
    rw [List.append_assoc, List.singleton_append, plainLine_append front (by simp), hpair]

/-- On a column of its line, the walk over the line with its line end comes as far as one over the
line alone. -/
theorem nativeColumn_eq_charsFor (e : Encoding) {columns feed : List Char}
    (hfree : '\n' ∉ columns) (hfeed : feed = [] ∨ feed = ['\n']) {character : Nat}
    (h : character ≤ e.units columns) :
    nativeColumn e (columns ++ feed) character = e.charsFor columns character := by
  have hwalk : ∀ plain, plainLine (columns ++ feed) = plain → e.units columns ≤ e.units plain →
      nativeColumn e (columns ++ feed) character = e.charsFor plain character := by
    rintro plain rfl hunits
    simp only [nativeColumn]
    rw [if_neg (by omega)]
  rcases hfeed with rfl | rfl
  · rw [List.append_nil] at hwalk ⊢
    exact hwalk columns (plainLine_of_free hfree) (Nat.le_refl _)
  · by_cases hreturn : columns.getLast? = some '\r'
    · -- The carriage return is left out, and the line feed takes its place in the walk.
      obtain ⟨front, rfl⟩ := List.getLast?_eq_some_iff.mp hreturn
      have hplain : plainLine (front ++ ['\r'] ++ ['\n']) = front ++ ['\n'] := by
        rw [List.append_assoc]
        exact plainLine_append front (by simp)
      rw [hwalk _ hplain (by simp [e.width_carriageReturn])]
      exact e.charsFor_concat front '\n' '\r' character
    · rw [hwalk _ (plainLine_append_feed hreturn) (by simp)]
      exact e.charsFor_append ['\n'] h

/-! Lines of a text. -/

/-- A line of a text: its columns, without the line feed, and what stands before and behind them. -/
structure Line where
  before : List Char
  columns : List Char
  after : List Char
  opening : before = [] ∨ before.getLast? = some '\n'
  free : '\n' ∉ columns
  closing : after = [] ∨ after.head? = some '\n'

namespace Line

def text (l : Line) : List Char := l.before ++ (l.columns ++ l.after)

def number (l : Line) : Nat := l.before.count '\n'

/-- The offset at which the line begins. -/
def start (l : Line) : Nat := l.before.length

/-- The offset at which the line ends: that of its line feed, or the end of the text. -/
def stop (l : Line) : Nat := l.before.length + l.columns.length

/-- The line with its line feed, if it has one. -/
def whole (l : Line) : List Char := l.columns ++ l.after.take 1

variable (l : Line)

theorem stop_le : l.stop ≤ l.text.length := by
  rw [stop, text, List.length_append, List.length_append]
  omega

theorem lineStart?_eq : lineStart? l.text l.number = some l.start :=
  lineStart?_append _ l.opening

theorem columns_eq : (l.text.drop l.start).takeWhile (· ≠ '\n') = l.columns := by
  rw [text, start, List.drop_left, List.takeWhile_append_of_pos (all_ne_feed l.free)]
  rcases hafter : l.after with _ | ⟨c, after⟩
  · simp
  · have hc : c = '\n' := by simpa [hafter] using l.closing
    simp [hc]

theorem exists_of_le_count (text : List Char) {n : Nat} (h : n ≤ text.count '\n') :
    ∃ l : Line, l.text = text ∧ l.number = n := by
  induction text generalizing n with
  | nil =>
    have hn : n = 0 := by simpa using h
    subst hn
    exact ⟨⟨[], [], [], Or.inl rfl, by simp, Or.inl rfl⟩, rfl, rfl⟩
  | cons c text ih =>
    by_cases hc : c = '\n'
    · subst hc
      cases n with
      | zero => exact ⟨⟨[], [], '\n' :: text, Or.inl rfl, by simp, Or.inr rfl⟩, rfl, rfl⟩
      | succ n =>
        obtain ⟨l, rfl, rfl⟩ := ih (n := n) (by simpa using h)
        have hopening : ('\n' :: l.before).getLast? = some '\n' := by
          rcases l.opening with hbefore | hbefore <;> simp [List.getLast?_cons, hbefore]
        refine ⟨⟨'\n' :: l.before, l.columns, l.after, Or.inr hopening, l.free, l.closing⟩, rfl, ?_⟩
        exact List.count_cons_self
    · obtain ⟨l, rfl, rfl⟩ := ih (n := n) (by simpa [List.count_cons_of_ne hc] using h)
      rcases l.opening with hbefore | hbefore
      · -- The first line goes on to the front.
        have hfree : '\n' ∉ c :: l.columns := by simpa [Ne.symm hc] using l.free
        refine ⟨⟨[], c :: l.columns, l.after, Or.inl rfl, hfree, l.closing⟩, ?_, ?_⟩
        · simp [text, hbefore]
        · simp [number, hbefore]
      · have hlast : (c :: l.before).getLast? = some '\n' := by simp [List.getLast?_cons, hbefore]
        refine ⟨⟨c :: l.before, l.columns, l.after, Or.inr hlast, l.free, l.closing⟩, rfl, ?_⟩
        exact List.count_cons_of_ne hc

theorem lineStart?_eq_none {text : List Char} {n : Nat} (h : text.count '\n' < n) :
    lineStart? text n = none := by
  induction text generalizing n with
  | nil =>
    obtain ⟨n, rfl⟩ := Nat.exists_eq_succ_of_ne_zero (Nat.ne_of_gt h)
    rfl
  | cons c text ih =>
    obtain ⟨n, rfl⟩ := Nat.exists_eq_succ_of_ne_zero (Nat.ne_of_gt (Nat.zero_lt_of_lt h))
    rw [Nat.succ_eq_add_one, lineStart?]
    by_cases hc : c = '\n'
    · subst hc
      rw [List.count_cons_self] at h
      rw [if_pos rfl, ih (by omega)]
      rfl
    · rw [List.count_cons_of_ne hc] at h
      rw [if_neg hc, ih h]
      rfl

theorem lastLine_append {columns : List Char} (h : '\n' ∉ columns) :
    lastLine (l.before ++ columns) = columns := by
  have hcolumns : '\n' ∉ columns.reverse := by rwa [List.mem_reverse]
  have hbefore : l.before.reverse.takeWhile (· ≠ '\n') = [] := by
    rcases l.opening with hnil | hlast
    · simp [hnil]
    · obtain ⟨front, hfront⟩ := List.getLast?_eq_some_iff.mp hlast
      simp [hfront]
  rw [lastLine, List.reverse_append, List.takeWhile_append_of_pos (all_ne_feed hcolumns), hbefore,
    List.append_nil, List.reverse_reverse]

theorem positionAt_eq (e : Encoding) {k : Nat} (hk : k ≤ l.columns.length) :
    positionAt e l.text (l.start + k : Nat) = ⟨l.number, e.units (l.columns.take k)⟩ := by
  have htake : l.text.take (l.start + k) = l.before ++ l.columns.take k := by
    rw [text, start, List.take_length_add_append, List.take_append_of_le_length hk]
  have hfree : '\n' ∉ l.columns.take k := fun h => l.free (List.mem_of_mem_take h)
  simp only [positionAt, Int.toNat_natCast, htake, l.lastLine_append hfree, List.count_append,
    List.count_eq_zero.mpr hfree, Nat.add_zero, number]

theorem offsetAt_eq (e : Encoding) (character : Int) :
    offsetAt e l.text l.number character = l.start + e.charsFor l.columns character.toNat := by
  simp only [offsetAt, Int.toNat_natCast, l.lineStart?_eq, l.columns_eq]
  rw [if_neg (by omega)]

/-- An offset of the line is reached by a column just when its own column is not before it, once it
has been brought into the line. -/
theorem offsetAt_le_iff (e : Encoding) (character : Int) {o : Nat} (hstart : l.start ≤ o)
    (hstop : o ≤ l.stop) :
    offsetAt e l.text l.number character ≤ o ↔
      min (max 0 character) (e.units l.columns) ≤ ((positionAt e l.text o).character : Int) := by
  obtain ⟨k, rfl⟩ := Nat.exists_eq_add_of_le hstart
  have hk : k ≤ l.columns.length := by
    simp only [stop, start] at hstop
    omega
  have hiff := e.charsFor_le_iff l.columns character.toNat k
  rw [l.offsetAt_eq, l.positionAt_eq e hk]
  simp only
  omega

theorem offsetAt_mem (e : Encoding) (character : Int) :
    l.start ≤ offsetAt e l.text l.number character ∧
      offsetAt e l.text l.number character ≤ l.stop := by
  have hle := e.charsFor_le_length l.columns character.toNat
  simp only [l.offsetAt_eq, stop, start]
  omega

theorem offsetAt_isLeast (e : Encoding) (character : Int) :
    IsLeast {o : Nat | l.start ≤ o ∧ o ≤ l.stop ∧
        min (max 0 character) (e.units l.columns) ≤ ((positionAt e l.text o).character : Int)}
      (offsetAt e l.text l.number character) := by
  obtain ⟨hstart, hstop⟩ := l.offsetAt_mem e character
  refine ⟨⟨hstart, hstop, (l.offsetAt_le_iff e character hstart hstop).mp (Nat.le_refl _)⟩, ?_⟩
  rintro o ⟨hstart', hstop', hreached⟩
  exact (l.offsetAt_le_iff e character hstart' hstop').mpr hreached

theorem offsetAt_eq_succ (e : Encoding) {character : Int} {o : Nat} (hstart : l.start ≤ o)
    (hstop : o < l.stop) (hafter : ((positionAt e l.text o).character : Int) < character)
    (hbefore : character ≤ ((positionAt e l.text (o + 1 : Nat)).character : Int)) :
    offsetAt e l.text l.number character = o + 1 := by
  have hnext : offsetAt e l.text l.number character ≤ o + 1 :=
    (l.offsetAt_le_iff e character (Nat.le_add_right_of_le hstart) hstop).mpr (by omega)
  have hthis := l.offsetAt_le_iff e character hstart (Nat.le_of_lt hstop)
  obtain ⟨k, rfl⟩ := Nat.exists_eq_add_of_le hstart
  have hk : k < l.columns.length := by
    simp only [stop, start] at hstop
    omega
  -- Not all units of the line have been passed at this offset, since one character is left.
  have hleft : e.units (l.columns.take k) < e.units l.columns := by
    have hsplit := e.units_append (l.columns.take k) (l.columns.drop k)
    rw [List.take_append_drop, List.drop_eq_getElem_cons hk, Encoding.units_cons] at hsplit
    have hw := e.width_pos l.columns[k]
    omega
  rw [l.positionAt_eq e (Nat.le_of_lt hk)] at hafter hthis
  simp only at hafter hthis
  omega

theorem positionAt_offsetAt_line (e : Encoding) (character : Int) :
    (positionAt e l.text (offsetAt e l.text l.number character)).line = l.number := by
  rw [l.offsetAt_eq, l.positionAt_eq e (e.charsFor_le_length _ _)]

theorem nativeColumn_whole (e : Encoding) {character : Nat} (h : character ≤ e.units l.columns) :
    nativeColumn e l.whole character = e.charsFor l.columns character := by
  apply nativeColumn_eq_charsFor e l.free _ h
  rcases l.closing with hafter | hafter
  · exact Or.inl (by rw [hafter, List.take_nil])
  · obtain ⟨after, hafter⟩ := List.head?_eq_some_iff.mp hafter
    exact Or.inr (by rw [hafter]; rfl)

/-- The offset of a column is where the walk over the line comes to, with the column brought into
the line before and the offset after it. -/
theorem walk_eq_offsetAt (e : Encoding) (character : Int) :
    min (l.start + nativeColumn e l.whole (min character.toNat (e.units l.columns))) l.stop =
      offsetAt e l.text l.number character := by
  have hstop := (l.offsetAt_mem e character).2
  rw [l.nativeColumn_whole e (Nat.min_le_right _ _), e.charsFor_min, ← l.offsetAt_eq]
  exact Nat.min_eq_left hstop

end Line

/-! Positions and offsets of a text. -/

theorem offsetAt_neg (e : Encoding) (text : List Char) {line : Int} (h : line < 0)
    (character : Int) : offsetAt e text line character = 0 := by
  rw [offsetAt, if_pos h]

theorem offsetAt_behind (e : Encoding) (text : List Char) {line : Int}
    (h : (text.count '\n' : Int) < line) (character : Int) :
    offsetAt e text line character = text.length := by
  have hnone : lineStart? text line.toNat = none := Line.lineStart?_eq_none (by omega)
  simp only [offsetAt, hnone]
  rw [if_neg (by omega)]

theorem line_cases (text : List Char) (line : Int) :
    line < 0 ∨ (text.count '\n' : Int) < line ∨
      ∃ l : Line, l.text = text ∧ (l.number : Int) = line := by
  by_cases hneg : line < 0
  · exact Or.inl hneg
  by_cases hbehind : (text.count '\n' : Int) < line
  · exact Or.inr (Or.inl hbehind)
  · obtain ⟨l, htext, hnumber⟩ := Line.exists_of_le_count text (n := line.toNat) (by omega)
    exact Or.inr (Or.inr ⟨l, htext, by omega⟩)

theorem offsetAt_le_length (e : Encoding) (text : List Char) (line character : Int) :
    offsetAt e text line character ≤ text.length := by
  rcases line_cases text line with h | h | ⟨l, rfl, rfl⟩
  · rw [offsetAt_neg e text h]
    exact Nat.zero_le _
  · exact Nat.le_of_eq (offsetAt_behind e text h character)
  · exact Nat.le_trans (l.offsetAt_mem e character).2 l.stop_le

theorem offsetAt_mono (e : Encoding) (text : List Char) (line : Int) {c d : Int} (hcd : c ≤ d) :
    offsetAt e text line c ≤ offsetAt e text line d := by
  rcases line_cases text line with h | h | ⟨l, rfl, rfl⟩
  · exact Nat.le_of_eq ((offsetAt_neg e text h c).trans (offsetAt_neg e text h d).symm)
  · exact Nat.le_of_eq ((offsetAt_behind e text h c).trans (offsetAt_behind e text h d).symm)
  · rw [l.offsetAt_eq, l.offsetAt_eq]
    exact Nat.add_le_add_left (e.charsFor_mono _ (Int.toNat_le_toNat hcd)) _

theorem exists_line_walk (e : Encoding) (text : List Char) {a : Nat} (ha : a ≤ text.length) :
    ∃ l : Line, l.text = text ∧ l.number = (positionAt e text a).line ∧
      l.start + nativeColumn e l.whole (positionAt e text a).character = a := by
  have hcount : (positionAt e text a).line ≤ text.count '\n' :=
    (List.take_sublist _ _).count_le _
  obtain ⟨l, rfl, hnumber⟩ := Line.exists_of_le_count text hcount
  have hoffset := offset_positionAt e l.text ha
  rw [Position.offset, ← hnumber, l.offsetAt_eq, Int.toNat_natCast] at hoffset
  have hunits : (positionAt e l.text a).character ≤ e.units l.columns := by
    rw [← hoffset, l.positionAt_eq e (e.charsFor_le_length _ _)]
    exact e.units_take_le _ _
  refine ⟨l, rfl, hnumber, ?_⟩
  rw [l.nativeColumn_whole e hunits, hoffset]

theorem positionAt_clamp (e : Encoding) (text : List Char) (i : Int) :
    positionAt e text i = positionAt e text (max 0 (min i text.length)) := by
  have htake : text.take i.toNat = text.take (max 0 (min i text.length)).toNat := by
    rw [List.take_eq_take_min, List.take_eq_take_min (i := (max 0 (min i text.length)).toNat)]
    congr 1
    omega
  simp only [positionAt, htake]

theorem positionAt_representable (e : Encoding) {text : List Char}
    (h : e.units text ≤ Position.limit) (i : Int) :
    Position.ofInts? (positionAt e text i).line (positionAt e text i).character =
      some (positionAt e text i) := by
  have htake := e.units_take_le text i.toNat
  have hline : (positionAt e text i).line ≤ e.units (text.take i.toNat) :=
    Nat.le_trans List.count_le_length (e.length_le_units _)
  have hcharacter : (positionAt e text i).character ≤ e.units (text.take i.toNat) := by
    obtain ⟨whole, hwhole, -⟩ := exists_append_lastLine (text.take i.toNat)
    have hunits := e.units_append whole (lastLine (text.take i.toNat))
    rw [← hwhole] at hunits
    simp only [positionAt]
    omega
  rw [Position.ofInts?, if_pos (by omega)]
  simp

/-- Later offsets of a text have later positions, with keys of their own, and the offset of a
position is found again, also by the editor's walk over the line. Offsets beyond an end count as
that end. In a text that has no more units than a position can count, an editor can be told every
position. -/
theorem positionAt_embeds (e : Encoding) (text : List Char) :
    (∀ a b : Nat, a < b → b ≤ text.length →
      positionAt e text a < positionAt e text b ∧
        (positionAt e text a).key ≠ (positionAt e text b).key) ∧
    (∀ a : Nat, a ≤ text.length →
      (positionAt e text a).offset e text = a ∧
        ∃ l : Line, l.text = text ∧ l.number = (positionAt e text a).line ∧
          l.start + nativeColumn e l.whole (positionAt e text a).character = a) ∧
    (∀ i : Int, positionAt e text i = positionAt e text (max 0 (min i text.length))) ∧
    (e.units text ≤ Position.limit → ∀ i : Int,
      Position.ofInts? (positionAt e text i).line (positionAt e text i).character =
        some (positionAt e text i)) := by
  refine ⟨?_, ?_, positionAt_clamp e text, positionAt_representable e⟩
  · intro a b hab hb
    have hlt := positionAt_lt e text hab hb
    exact ⟨hlt, fun hkey => Position.ne_of_lt hlt (Position.key_injective hkey)⟩
  · intro a ha
    exact ⟨offset_positionAt e text ha, exists_line_walk e text ha⟩

/-- Between a carriage return and its line feed, behind a character of two units. -/
theorem positionAt_embeds_before_feed :
    let text := "a🎵\r\nb".toList
    positionAt .utf16 text (3 : Nat) < positionAt .utf16 text (4 : Nat) ∧
      (positionAt .utf16 text (3 : Nat)).key ≠ (positionAt .utf16 text (4 : Nat)).key ∧
      (positionAt .utf16 text (3 : Nat)).offset .utf16 text = 3 ∧
      Position.ofInts? (positionAt .utf16 text 9).line (positionAt .utf16 text 9).character =
        some ⟨1, 1⟩ := by
  intro text
  obtain ⟨horder, hinverse, -, hshort⟩ := positionAt_embeds .utf16 text
  obtain ⟨hlt, hkey⟩ := horder 3 4 (by decide) (by decide)
  exact ⟨hlt, hkey, (hinverse 3 (by decide)).1, hshort (by decide) 9⟩

/-- The offset of a line and a column, which may be any integers. A line before the first means the
start of the text, and one behind the last its end. In a line of the text the column is brought
between zero and the width of the line, and the offset is the least one of the line whose column is
not smaller; so a column inside a wide character falls behind it. -/
theorem offsetAt_rounds_up (e : Encoding) (text : List Char) (line character : Int) :
    (line < 0 → offsetAt e text line character = 0) ∧
    ((text.count '\n' : Int) < line → offsetAt e text line character = text.length) ∧
    (0 ≤ line → line ≤ text.count '\n' → ∃ l : Line, l.text = text ∧ (l.number : Int) = line) ∧
    (∀ l : Line, l.text = text → (l.number : Int) = line →
      IsLeast {o : Nat | l.start ≤ o ∧ o ≤ l.stop ∧
          min (max 0 character) (e.units l.columns) ≤ ((positionAt e text o).character : Int)}
        (offsetAt e text line character) ∧
      ((positionAt e text (offsetAt e text line character)).line : Int) = line ∧
      (∀ o : Nat, l.start ≤ o → o < l.stop →
        ((positionAt e text o).character : Int) < character →
        character ≤ ((positionAt e text (o + 1 : Nat)).character : Int) →
        offsetAt e text line character = o + 1) ∧
      min (l.start + nativeColumn e l.whole (min character.toNat (e.units l.columns))) l.stop =
        offsetAt e text line character) ∧
    offsetAt e text line character ≤ text.length ∧
    ∀ d : Int, character ≤ d →
      offsetAt e text line character ≤ offsetAt e text line d := by
  refine ⟨fun h => offsetAt_neg e text h character, fun h => offsetAt_behind e text h character,
    ?_, ?_, offsetAt_le_length e text line character, fun d hd => offsetAt_mono e text line hd⟩
  · intro hzero hcount
    rcases line_cases text line with h | h | hline
    · omega
    · omega
    · exact hline
  · rintro l rfl rfl
    refine ⟨l.offsetAt_isLeast e character, ?_, ?_, l.walk_eq_offsetAt e character⟩
    · rw [l.positionAt_offsetAt_line]
    · intro o hstart hstop hafter hbefore
      exact l.offsetAt_eq_succ e hstart hstop hafter hbefore

/-- In the middle of a character of two units, and far behind a line that ends in a carriage
return. -/
theorem offsetAt_rounds_up_in_pair :
    let text := "a🎵\r\nb".toList
    offsetAt .utf16 text (-1) 5 = 0 ∧ offsetAt .utf16 text 2 0 = 5 ∧
      (∃ l : Line, l.text = text ∧ l.number = 0 ∧
        IsLeast {o : Nat | l.start ≤ o ∧ o ≤ l.stop ∧
          min (max 0 (2 : Int)) (Encoding.units .utf16 l.columns) ≤
            ((positionAt .utf16 text o).character : Int)} (offsetAt .utf16 text 0 2)) ∧
      offsetAt .utf16 text 0 2 = 2 ∧ offsetAt .utf16 text 0 99 = 3 := by
  intro text
  obtain ⟨hneg, -⟩ := offsetAt_rounds_up .utf16 text (-1) 5
  obtain ⟨-, hbehind, -⟩ := offsetAt_rounds_up .utf16 text 2 0
  obtain ⟨-, -, hexists, hline, -⟩ := offsetAt_rounds_up .utf16 text 0 2
  obtain ⟨l, htext, hnumber⟩ := hexists (by decide) (by decide)
  obtain ⟨hleast, -⟩ := hline l htext hnumber
  exact ⟨hneg (by decide), hbehind (by decide), ⟨l, htext, by omega, hleast⟩, by decide, by decide⟩

end PatternServer.Document
