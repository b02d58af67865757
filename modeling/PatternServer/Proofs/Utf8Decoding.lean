import Mathlib.Data.List.Induction
import PatternServer.Text.Utf8

/-!
# What the decoder reads

The text that a run of bytes stands for is told without the machine: a byte sequence that encodes a
character stands for it, and where none does, the longest beginning of such a sequence, or else one
byte, stands for a replacement character. This determines the text, and the machine finds it.
Reading in pieces comes to the same as reading at once.
-/

namespace PatternServer.Text.Utf8

set_option autoImplicit false

/-! The text that bytes stand for. -/

/-- The bytes are the beginning of an encoded character, or all of it. -/
def Begins (bytes : List UInt8) : Prop :=
  ∃ c, bytes <+: String.utf8EncodeChar c

/-- In front of `rest`, the bytes `bad` are one fault: no character, but the beginning of one as far
as it goes, or a single byte that none begins with. -/
structure Fault (bad rest : List UInt8) : Prop where
  nonempty : bad ≠ []
  piece : bad.length = 1 ∨ Begins bad
  incomplete : ∀ c, bad ≠ String.utf8EncodeChar c
  maximal : ∀ b, rest.head? = some b → ¬ Begins (bad ++ [b])

/-- The bytes stand for the text, with a replacement character for each fault. -/
inductive Decodes : List UInt8 → List Char → Prop
  | nil : Decodes [] []
  | char (c : Char) {rest : List UInt8} {text : List Char} (h : Decodes rest text) :
      Decodes (String.utf8EncodeChar c ++ rest) (c :: text)
  | fault {bad rest : List UInt8} {text : List Char} (hbad : Fault bad rest)
      (h : Decodes rest text) : Decodes (bad ++ rest) (replacement :: text)

/-! Runs of the machine. -/

theorem run_append (s : Utf8State) (a b : List UInt8) :
    run s (a ++ b) = ((run s a).1 ++ (run (run s a).2 b).1, (run (run s a).2 b).2) := by
  induction a generalizing s with
  | nil => rfl
  | cons x a ih => simp [run, ih, List.append_assoc]

/-- Reading two pieces comes to the same as reading them at once. -/
theorem decodePiece_append (s : Utf8State) (a b : List UInt8) :
    decodePiece s (a ++ b) =
      ((decodePiece s a).1 ++ (decodePiece (decodePiece s a).2 b).1,
        (decodePiece (decodePiece s a).2 b).2) := by
  simp [decodePiece, run_append, replaceFaults]

/-! The first byte of a character. -/

theorem begin_ascii {b : Nat} (h : b < 0x80) : begin b = ([some (Char.ofNat b)], .ground) := by
  simp [begin, h]

theorem begin_two {b : Nat} (h : 0xC2 ≤ b) (h' : b < 0xE0) :
    begin b = ([], .inside (b - 0xC0) 1 0x80 0xBF) := by
  unfold begin
  rw [if_neg (by omega), if_neg (by omega), if_pos h']

theorem begin_three {b : Nat} (h : 0xE0 ≤ b) (h' : b < 0xF0) :
    begin b = ([], .inside (b - 0xE0) 2 (if b = 0xE0 then 0xA0 else 0x80)
      (if b = 0xED then 0x9F else 0xBF)) := by
  unfold begin
  rw [if_neg (by omega), if_neg (by omega), if_neg (by omega)]
  by_cases hlow : b = 0xE0
  · subst hlow; rfl
  · by_cases hhigh : b = 0xED
    · subst hhigh; rfl
    · rw [if_neg hlow, if_neg hhigh, if_pos h', if_neg hlow, if_neg hhigh]

theorem begin_four {b : Nat} (h : 0xF0 ≤ b) (h' : b ≤ 0xF4) :
    begin b = ([], .inside (b - 0xF0) 3 (if b = 0xF0 then 0x90 else 0x80)
      (if b = 0xF4 then 0x8F else 0xBF)) := by
  unfold begin
  rw [if_neg (by omega), if_neg (by omega), if_neg (by omega), if_neg (by omega),
    if_neg (by omega), if_neg (by omega)]
  by_cases hlow : b = 0xF0
  · subst hlow; rfl
  · by_cases hhigh : b = 0xF4
    · subst hhigh; rfl
    · rw [if_neg hlow, if_pos (by omega), if_neg hlow, if_neg hhigh]

/-- A byte that no character begins with. -/
theorem begin_fault {b : Nat} (h : 0x80 ≤ b) (h' : b < 0xC2 ∨ 0xF4 < b) :
    begin b = ([none], .ground) := by
  unfold begin
  rw [if_neg (by omega)]
  by_cases hlow : b < 0xC2
  · rw [if_pos hlow]
  · rw [if_neg hlow, if_neg (by omega), if_neg (by omega), if_neg (by omega), if_neg (by omega),
      if_neg (by omega), if_neg (by omega), if_neg (by omega)]

/-! The other bytes of a character. -/

/-- Bytes that complete the character in hand. -/
def Completes : (value missing low high : Nat) → List UInt8 → Char → Prop
  | value, 0, _, _, bytes, c => bytes = [] ∧ c = Char.ofNat value
  | value, missing + 1, low, high, bytes, c => ∃ b rest, bytes = b :: rest ∧ low ≤ b.toNat ∧
      b.toNat ≤ high ∧ Completes (value * 64 + (b.toNat - 0x80)) missing 0x80 0xBF rest c

theorem completes_succ {value missing low high : Nat} {bytes : List UInt8} {c : Char} :
    Completes value (missing + 1) low high bytes c ↔ ∃ b rest, bytes = b :: rest ∧ low ≤ b.toNat ∧
      b.toNat ≤ high ∧ Completes (value * 64 + (b.toNat - 0x80)) missing 0x80 0xBF rest c := Iff.rfl

theorem completes_zero {value low high : Nat} {bytes : List UInt8} {c : Char} :
    Completes value 0 low high bytes c ↔ bytes = [] ∧ c = Char.ofNat value := Iff.rfl

theorem run_of_completes {value missing low high : Nat} {bytes : List UInt8} {c : Char}
    (h : Completes value (missing + 1) low high bytes c) :
    run (.inside value (missing + 1) low high) bytes = ([some c], .ground) := by
  induction missing generalizing value low high bytes with
  | zero =>
    obtain ⟨b, rest, rfl, hlow, hhigh, h⟩ := completes_succ.mp h
    obtain ⟨rfl, hc⟩ := completes_zero.mp h
    simp [run, step, hlow, hhigh, hc]
  | succ missing ih =>
    obtain ⟨b, rest, rfl, hlow, hhigh, h⟩ := completes_succ.mp h
    have hrest := ih h
    simp only [run, step, if_pos (And.intro hlow hhigh), Nat.add_sub_cancel]
    rw [if_neg (by omega)]
    simp only [hrest, List.nil_append]

theorem exists_completes (value missing : Nat) {low high : Nat} (h : low ≤ high) (h' : low < 256) :
    ∃ bytes c, Completes value missing low high bytes c := by
  induction missing generalizing value low high with
  | zero => exact ⟨[], Char.ofNat value, rfl, rfl⟩
  | succ missing ih =>
    have hb : (UInt8.ofNat low).toNat = low := UInt8.toNat_ofNat_of_lt h'
    have hrest : ∃ bytes c, Completes (value * 64 + ((UInt8.ofNat low).toNat - 0x80)) missing
        0x80 0xBF bytes c := ih _ (by omega) (by omega)
    obtain ⟨bytes, c, hbytes⟩ := hrest
    exact ⟨UInt8.ofNat low :: bytes, c, _, _, rfl, by omega, by omega, hbytes⟩

/-! Encoded characters. -/

theorem val_ofNat {n : Nat} (h : n.isValidChar) : (Char.ofNat n).val.toNat = n := by
  rw [Char.ofNat, dif_pos h]
  rfl

theorem utf8EncodeChar_two {a : UInt8} {bytes : List UInt8} {c : Char} (ha : 0xC2 ≤ a.toNat)
    (ha' : a.toNat < 0xE0) (h : Completes (a.toNat - 0xC0) 1 0x80 0xBF bytes c) :
    a :: bytes = String.utf8EncodeChar c := by
  obtain ⟨b, _, rfl, hb, hb', h⟩ := completes_succ.mp h
  obtain ⟨rfl, hc⟩ := completes_zero.mp h
  have hv := val_ofNat (n := (a.toNat - 0xC0) * 64 + (b.toNat - 0x80)) (Or.inl (by omega))
  rw [hc]
  simp only [String.utf8EncodeChar, hv]
  rw [if_neg (by omega), if_pos (by omega)]
  simp only [List.cons.injEq, ← UInt8.toNat_inj, UInt8.toNat_ofNat', and_true]
  omega

theorem utf8EncodeChar_three {a : UInt8} {bytes : List UInt8} {c : Char} (ha : 0xE0 ≤ a.toNat)
    (ha' : a.toNat < 0xF0)
    (h : Completes (a.toNat - 0xE0) 2 (if a.toNat = 0xE0 then 0xA0 else 0x80)
      (if a.toNat = 0xED then 0x9F else 0xBF) bytes c) :
    a :: bytes = String.utf8EncodeChar c := by
  obtain ⟨b, _, rfl, hb, hb', h⟩ := completes_succ.mp h
  obtain ⟨d, _, rfl, hd, hd', h⟩ := completes_succ.mp h
  obtain ⟨rfl, hc⟩ := completes_zero.mp h
  have hlow : 0x80 ≤ b.toNat ∧ (a.toNat = 0xE0 → 0xA0 ≤ b.toNat) := by split at hb <;> omega
  have hhigh : b.toNat ≤ 0xBF ∧ (a.toNat = 0xED → b.toNat ≤ 0x9F) := by split at hb' <;> omega
  clear hb hb'
  have hv := val_ofNat
    (n := ((a.toNat - 0xE0) * 64 + (b.toNat - 0x80)) * 64 + (d.toNat - 0x80)) (by
      unfold Nat.isValidChar
      omega)
  rw [hc]
  simp only [String.utf8EncodeChar, hv]
  rw [if_neg (by omega), if_neg (by omega), if_pos (by omega)]
  simp only [List.cons.injEq, ← UInt8.toNat_inj, UInt8.toNat_ofNat', and_true]
  omega

theorem utf8EncodeChar_four {a : UInt8} {bytes : List UInt8} {c : Char} (ha : 0xF0 ≤ a.toNat)
    (ha' : a.toNat ≤ 0xF4)
    (h : Completes (a.toNat - 0xF0) 3 (if a.toNat = 0xF0 then 0x90 else 0x80)
      (if a.toNat = 0xF4 then 0x8F else 0xBF) bytes c) :
    a :: bytes = String.utf8EncodeChar c := by
  obtain ⟨b, _, rfl, hb, hb', h⟩ := completes_succ.mp h
  obtain ⟨d, _, rfl, hd, hd', h⟩ := completes_succ.mp h
  obtain ⟨e, _, rfl, he, he', h⟩ := completes_succ.mp h
  obtain ⟨rfl, hc⟩ := completes_zero.mp h
  have hlow : 0x80 ≤ b.toNat ∧ (a.toNat = 0xF0 → 0x90 ≤ b.toNat) := by split at hb <;> omega
  have hhigh : b.toNat ≤ 0xBF ∧ (a.toNat = 0xF4 → b.toNat ≤ 0x8F) := by split at hb' <;> omega
  clear hb hb'
  have hv := val_ofNat
    (n := (((a.toNat - 0xF0) * 64 + (b.toNat - 0x80)) * 64 + (d.toNat - 0x80)) * 64 +
      (e.toNat - 0x80)) (by
      unfold Nat.isValidChar
      omega)
  rw [hc]
  simp only [String.utf8EncodeChar, hv]
  rw [if_neg (by omega), if_neg (by omega), if_neg (by omega)]
  simp only [List.cons.injEq, ← UInt8.toNat_inj, UInt8.toNat_ofNat', and_true]
  omega

theorem run_cons_of_completes {b : UInt8} {value missing low high : Nat} {bytes : List UInt8}
    {c : Char} (hb : begin b.toNat = ([], .inside value (missing + 1) low high))
    (h : Completes value (missing + 1) low high bytes c) :
    run .ground (b :: bytes) = ([some c], .ground) := by
  simp only [run, step, hb, run_of_completes h, List.nil_append]

/-- The machine reads an encoded character. -/
theorem run_utf8EncodeChar (c : Char) :
    run .ground (String.utf8EncodeChar c) = ([some c], .ground) := by
  have hvalid : c.val.toNat < 0xD800 ∨ 0xDFFF < c.val.toNat ∧ c.val.toNat < 0x110000 := c.valid
  have hchar : c = Char.ofNat c.val.toNat := (Char.ofNat_toNat c).symm
  have hbyte : ∀ n, n < 256 → (UInt8.ofNat n).toNat = n := fun n hn => UInt8.toNat_ofNat_of_lt hn
  unfold String.utf8EncodeChar
  simp only
  generalize c.val.toNat = v at *
  have hlast := hbyte (v % 64 + 128) (by omega)
  have hthird := hbyte (v / 64 % 64 + 128) (by omega)
  have hsecond := hbyte (v / 4096 % 64 + 128) (by omega)
  by_cases h₁ : v ≤ 127
  · rw [if_pos h₁, hchar]
    simp only [run, step, hbyte v (by omega), begin_ascii (show v < 0x80 by omega),
      List.append_nil]
  rw [if_neg h₁]
  by_cases h₂ : v ≤ 2047
  · rw [if_pos h₂]
    have hb := hbyte (v / 64 % 32 + 192) (by omega)
    refine run_cons_of_completes (begin_two (by omega) (by omega)) (completes_succ.mpr
      ⟨_, _, rfl, by omega, by omega, completes_zero.mpr ⟨rfl, ?_⟩⟩)
    exact hchar.trans (congrArg Char.ofNat (by omega))
  rw [if_neg h₂]
  by_cases h₃ : v ≤ 65535
  · rw [if_pos h₃]
    have hb := hbyte (v / 4096 % 16 + 224) (by omega)
    refine run_cons_of_completes (begin_three (by omega) (by omega)) (completes_succ.mpr
      ⟨_, _, rfl, ?_, ?_, completes_succ.mpr ⟨_, _, rfl, by omega, by omega,
        completes_zero.mpr ⟨rfl, ?_⟩⟩⟩)
    · split <;> omega
    · split <;> omega
    · exact hchar.trans (congrArg Char.ofNat (by omega))
  · rw [if_neg h₃]
    have hb := hbyte (v / 262144 % 8 + 240) (by omega)
    refine run_cons_of_completes (begin_four (by omega) (by omega)) (completes_succ.mpr
      ⟨_, _, rfl, ?_, ?_, completes_succ.mpr ⟨_, _, rfl, by omega, by omega,
        completes_succ.mpr ⟨_, _, rfl, by omega, by omega, completes_zero.mpr ⟨rfl, ?_⟩⟩⟩⟩)
    · split <;> omega
    · split <;> omega
    · exact hchar.trans (congrArg Char.ofNat (by omega))

/-! What the machine has in hand. -/

/-- The machine is between two bytes of a character, or between two characters, and has read `bytes`
of it. Whatever completes the character in hand gives an encoded character. -/
structure Pending (bytes : List UInt8) (s : Utf8State) : Prop where
  run_eq : run .ground bytes = ([], s)
  completed : ∀ {value missing low high}, s = .inside value missing low high →
    0 < missing ∧ low ≤ high ∧ low < 256 ∧
      ∀ more c, Completes value missing low high more c → bytes ++ more = String.utf8EncodeChar c

theorem pending_nil : Pending [] .ground where
  run_eq := rfl
  completed := by
    intro value missing low high h
    cases h

/-- A byte is read by the machine. -/
theorem run_concat {bytes : List UInt8} {s : Utf8State} (h : run .ground bytes = ([], s))
    (b : UInt8) : run .ground (bytes ++ [b]) = step s b := by
  simp [run_append, h, run]

/-- What the machine shows a fault in is not the beginning of a character. -/
theorem not_begins_of_fault {bytes : List UInt8} (h : none ∈ (run .ground bytes).1) :
    ¬ Begins bytes := by
  rintro ⟨c, more, hc⟩
  have hrun := run_utf8EncodeChar c
  rw [← hc, run_append, Prod.mk.injEq] at hrun
  have hmem : none ∈ [some c] := hrun.1 ▸ List.mem_append_left _ h
  simp at hmem

/-- A byte begins a character of its own, begins a longer one, or begins none. -/
theorem step_ground_cases (b : UInt8) :
    (∃ c, [b] = String.utf8EncodeChar c ∧ step .ground b = ([some c], .ground)) ∨
    (∃ value missing low high, step .ground b = ([], .inside value missing low high) ∧
      Pending [b] (.inside value missing low high)) ∨
    step .ground b = ([none], .ground) := by
  have hlead : ∀ {value missing low high},
      begin b.toNat = ([], .inside value (missing + 1) low high) → low ≤ high → low < 256 →
      (∀ more c, Completes value (missing + 1) low high more c →
        b :: more = String.utf8EncodeChar c) →
      ∃ value missing low high, step .ground b = ([], .inside value missing low high) ∧
        Pending [b] (.inside value missing low high) := by
    intro value missing low high hbegin hle hlt hmore
    refine ⟨value, missing + 1, low, high, hbegin, ?_, ?_⟩
    · simp [run, step, hbegin]
    · rintro _ _ _ _ ⟨⟩
      exact ⟨Nat.succ_pos _, hle, hlt, hmore⟩
  by_cases h₁ : b.toNat < 0x80
  · refine Or.inl ⟨Char.ofNat b.toNat, ?_, begin_ascii h₁⟩
    have hv := val_ofNat (n := b.toNat) (Or.inl (by omega))
    simp only [String.utf8EncodeChar, hv]
    rw [if_pos (by omega), UInt8.ofNat_toNat]
  · by_cases h₂ : b.toNat < 0xC2 ∨ 0xF4 < b.toNat
    · exact Or.inr (Or.inr (begin_fault (by omega) h₂))
    · refine Or.inr (Or.inl ?_)
      by_cases h₃ : b.toNat < 0xE0
      · exact hlead (begin_two (by omega) h₃) (by omega) (by omega)
          fun _ _ => utf8EncodeChar_two (by omega) h₃
      · by_cases h₄ : b.toNat < 0xF0
        · exact hlead (begin_three (by omega) h₄) (by split <;> split <;> omega)
            (by split <;> omega) fun _ _ => utf8EncodeChar_three (by omega) h₄
        · exact hlead (begin_four (by omega) (by omega)) (by split <;> split <;> omega)
            (by split <;> omega) fun _ _ => utf8EncodeChar_four (by omega) (by omega)

/-- A byte completes the character in hand, goes on with it, or shows that it is a fault; then it is
read afresh. -/
theorem step_inside_cases {bytes : List UInt8} {value missing low high : Nat}
    (h : Pending bytes (.inside value missing low high)) (b : UInt8) :
    (∃ c, bytes ++ [b] = String.utf8EncodeChar c ∧
      step (.inside value missing low high) b = ([some c], .ground)) ∨
    (∃ value' missing' low' high',
      step (.inside value missing low high) b = ([], .inside value' missing' low' high') ∧
      Pending (bytes ++ [b]) (.inside value' missing' low' high')) ∨
    step (.inside value missing low high) b =
      (none :: (step .ground b).1, (step .ground b).2) := by
  obtain ⟨hpos, _, _, hmore⟩ := h.completed rfl
  obtain ⟨missing, rfl⟩ := Nat.exists_eq_add_of_lt hpos
  rw [Nat.zero_add] at *
  by_cases hb : low ≤ b.toNat ∧ b.toNat ≤ high
  · cases missing with
    | zero =>
      refine Or.inl ⟨_, hmore [b] _ (completes_succ.mpr
        ⟨b, [], rfl, hb.1, hb.2, completes_zero.mpr ⟨rfl, rfl⟩⟩), ?_⟩
      simp [step, hb]
    | succ missing =>
      have hstep : step (.inside value (missing + 1 + 1) low high) b =
          ([], .inside (value * 64 + (b.toNat - 0x80)) (missing + 1) 0x80 0xBF) := by
        simp only [step, if_pos hb]
        rw [if_neg (by omega)]
        rfl
      refine Or.inr (Or.inl ⟨_, _, _, _, hstep, ?_, ?_⟩)
      · rw [run_concat h.run_eq, hstep]
      · intro value' missing' low' high' heq
        simp only [Utf8State.inside.injEq] at heq
        obtain ⟨rfl, rfl, rfl, rfl⟩ := heq
        refine ⟨Nat.succ_pos _, by omega, by omega, ?_⟩
        intro more c hc
        rw [List.append_assoc]
        exact hmore (b :: more) c (completes_succ.mpr ⟨b, more, rfl, hb.1, hb.2, hc⟩)
  · exact Or.inr (Or.inr (by simp only [step, if_neg hb]))

/-! Faults. -/

theorem Pending.begins {bytes : List UInt8} {value missing low high : Nat}
    (h : Pending bytes (.inside value missing low high)) : Begins bytes := by
  obtain ⟨_, hle, hlt, hmore⟩ := h.completed rfl
  obtain ⟨more, c, hc⟩ := exists_completes value missing hle hlt
  exact ⟨c, more, hmore more c hc⟩

/-- The character in hand is a fault if the next byte, should there be one, does not go on with
it. -/
theorem fault_of_pending {bytes rest : List UInt8} {value missing low high : Nat}
    (h : Pending bytes (.inside value missing low high))
    (hrest : ∀ b, rest.head? = some b → none ∈ (step (.inside value missing low high) b).1) :
    Fault bytes rest where
  nonempty := by
    rintro rfl
    cases h.run_eq
  piece := Or.inr h.begins
  incomplete := by
    rintro c rfl
    cases (run_utf8EncodeChar c).symm.trans h.run_eq
  maximal := by
    intro b hb
    apply not_begins_of_fault
    rw [run_concat h.run_eq]
    exact hrest b hb

theorem fault_of_step_ground {b : UInt8} (h : step .ground b = ([none], .ground))
    (rest : List UInt8) : Fault [b] rest where
  nonempty := List.cons_ne_nil b []
  piece := Or.inl rfl
  incomplete := by
    intro c hc
    have hrun := run_utf8EncodeChar c
    simp [← hc, run, h] at hrun
  maximal := by
    intro x _
    apply not_begins_of_fault
    simp [run, h]

theorem step_ne_ground (s : Utf8State) (b : UInt8) : step s b ≠ ([], .ground) := by
  have hbegin : step .ground b ≠ ([], .ground) := by
    rcases step_ground_cases b with ⟨c, _, h⟩ | ⟨_, _, _, _, h, _⟩ | h <;> simp [h]
  cases s with
  | ground => exact hbegin
  | inside value missing low high =>
    simp only [step]
    split
    · split <;> simp
    · simp

/-- The machine does not come back between characters without having read one. -/
theorem eq_nil_of_run {s : Utf8State} {bytes : List UInt8} (h : run s bytes = ([], .ground)) :
    bytes = [] := by
  induction bytes generalizing s with
  | nil => rfl
  | cons b bytes ih =>
    simp only [run, Prod.mk.injEq, List.append_eq_nil_iff] at h
    obtain ⟨⟨hnow, hlater⟩, hstate⟩ := h
    obtain rfl := ih (Prod.ext hlater hstate)
    exact absurd (Prod.ext hnow hstate) (step_ne_ground s b)

/-- No encoded character is the beginning of another one. -/
theorem utf8EncodeChar_append {c d : Char} {more : List UInt8}
    (h : String.utf8EncodeChar c ++ more = String.utf8EncodeChar d) : more = [] := by
  have hrun := run_utf8EncodeChar d
  rw [← h, run_append, run_utf8EncodeChar, Prod.mk.injEq, List.singleton_append,
    List.cons.injEq] at hrun
  exact eq_nil_of_run (Prod.ext hrun.1.2 hrun.2)

/-- Behind the beginning of a character, the machine has that character in hand. -/
theorem pending_of_begins {bytes : List UInt8} (hne : bytes ≠ []) (hbegins : Begins bytes)
    (hincomplete : ∀ c, bytes ≠ String.utf8EncodeChar c) :
    ∃ value missing low high, Pending bytes (.inside value missing low high) := by
  induction bytes using List.reverseRecOn with
  | nil => exact absurd rfl hne
  | append_singleton bytes b ih =>
    by_cases hbytes : bytes = []
    · subst hbytes
      rcases step_ground_cases b with ⟨c, hc, _⟩ | ⟨_, _, _, _, _, h⟩ | hstep
      · exact absurd hc (hincomplete c)
      · exact ⟨_, _, _, _, h⟩
      · refine absurd hbegins (not_begins_of_fault ?_)
        simp [run, hstep]
    · obtain ⟨c, more, hc⟩ := hbegins
      rw [List.append_assoc] at hc
      have hpending := ih hbytes ⟨c, _, hc⟩ (by
        rintro d rfl
        cases utf8EncodeChar_append hc)
      obtain ⟨value, missing, low, high, h⟩ := hpending
      rcases step_inside_cases h b with ⟨d, hd, _⟩ | ⟨_, _, _, _, _, h'⟩ | hstep
      · exact absurd hd (hincomplete d)
      · exact ⟨_, _, _, _, h'⟩
      · refine absurd ⟨c, more, by rw [List.append_assoc]; exact hc⟩ (not_begins_of_fault ?_)
        rw [run_concat h.run_eq, hstep]
        exact List.mem_cons_self

/-- The machine reads a fault whole, or has it in hand. -/
theorem Fault.cases {bad rest : List UInt8} (h : Fault bad rest) :
    run .ground bad = ([none], .ground) ∨
      ∃ value missing low high, Pending bad (.inside value missing low high) := by
  rcases h.piece with hlength | hbegins
  · obtain ⟨b, rfl⟩ := List.length_eq_one_iff.mp hlength
    rcases step_ground_cases b with ⟨c, hc, _⟩ | ⟨_, _, _, _, _, hb⟩ | hstep
    · exact absurd hc (h.incomplete c)
    · exact Or.inr ⟨_, _, _, _, hb⟩
    · exact Or.inl (by simp [run, hstep])
  · exact Or.inr (pending_of_begins h.nonempty hbegins h.incomplete)

/-! The machine finds the text that bytes stand for. -/

/-- The text that the machine reads on from a state; a character cut off at the end is a fault. -/
def readOn (s : Utf8State) (bytes : List UInt8) : List Char :=
  replaceFaults (run s bytes).1 ++ if (run s bytes).2 = .ground then [] else [replacement]

theorem readOn_append (s : Utf8State) (a b : List UInt8) :
    readOn s (a ++ b) = replaceFaults (run s a).1 ++ readOn (run s a).2 b := by
  simp [readOn, run_append, replaceFaults]

theorem readOn_cons (s : Utf8State) (b : UInt8) (bytes : List UInt8) :
    readOn s (b :: bytes) = replaceFaults (step s b).1 ++ readOn (step s b).2 bytes := by
  have h := readOn_append s [b] bytes
  rwa [show run s [b] = step s b by simp [run], List.singleton_append] at h

theorem decodes_readOn {bad : List UInt8} {s : Utf8State} (h : Pending bad s)
    (bytes : List UInt8) : Decodes (bad ++ bytes) (readOn s bytes) := by
  induction bytes generalizing bad s with
  | nil =>
    cases s with
    | ground =>
      obtain rfl := eq_nil_of_run h.run_eq
      exact .nil
    | inside => exact .fault (fault_of_pending h (by simp)) .nil
  | cons b bytes ih =>
    have hfresh : Decodes (b :: bytes) (readOn .ground (b :: bytes)) := by
      rw [readOn_cons]
      rcases step_ground_cases b with ⟨c, hc, hstep⟩ | ⟨_, _, _, _, hstep, hb⟩ | hstep <;>
        rw [hstep]
      · rw [← List.singleton_append, hc]
        exact .char c (ih pending_nil)
      · exact ih hb
      · exact .fault (fault_of_step_ground hstep bytes) (ih pending_nil)
    cases s with
    | ground =>
      obtain rfl := eq_nil_of_run h.run_eq
      exact hfresh
    | inside value missing low high =>
      rw [readOn_cons]
      rcases step_inside_cases h b with ⟨c, hc, hstep⟩ | ⟨_, _, _, _, hstep, hb⟩ | hstep
      · rw [hstep, List.append_cons, hc]
        exact .char c (ih pending_nil)
      · rw [hstep, List.append_cons]
        exact ih hb
      · -- The byte that shows the fault is read afresh.
        have hfault : Fault bad (b :: bytes) := by
          refine fault_of_pending h ?_
          rintro _ ⟨⟩
          rw [hstep]
          exact List.mem_cons_self
        rw [readOn_cons] at hfresh
        rw [hstep]
        exact .fault hfault hfresh

theorem readOn_of_decodes {bytes : List UInt8} {text : List Char} (h : Decodes bytes text) :
    readOn .ground bytes = text := by
  induction h with
  | nil => rfl
  | char c _ ih =>
    rw [readOn_append, run_utf8EncodeChar, ih]
    rfl
  | @fault bad rest text hbad _ ih =>
    rw [readOn_append]
    rcases hbad.cases with hrun | ⟨value, missing, low, high, h⟩
    · rw [hrun, ih]
      rfl
    · rw [h.run_eq]
      cases rest with
      | nil =>
        subst ih
        rfl
      | cons b rest =>
        have hmaximal := hbad.maximal b rfl
        rcases step_inside_cases h b with ⟨c, hc, _⟩ | ⟨_, _, _, _, _, hb⟩ | hstep
        · exact absurd ⟨c, hc ▸ List.prefix_rfl⟩ hmaximal
        · exact absurd hb.begins hmaximal
        · rw [readOn_cons, hstep]
          rw [readOn_cons] at ih
          rw [← ih]
          rfl

/-- A whole text is decoded to the one text that its bytes stand for. -/
theorem decodes_iff {bytes : List UInt8} {text : List Char} :
    Decodes bytes text ↔ decodeReplacing bytes = text := by
  constructor
  · exact readOn_of_decodes
  · rintro rfl
    exact decodes_readOn pending_nil bytes

/-! Texts that must be well formed. -/

theorem decode?_eq_some_iff_run {bytes : List UInt8} {text : List Char} :
    decode? bytes = some text ↔ run .ground bytes = (text.map some, .ground) := by
  have hcollect : ∀ cs : List (Option Char),
      cs.foldr (fun c rest => c.bind fun c => rest.map (c :: ·)) (some []) = some text ↔
        cs = text.map some := by
    intro cs
    induction cs generalizing text with
    | nil => cases text <;> simp
    | cons c cs ih =>
      cases c with
      | none => cases text <;> simp
      | some c =>
        cases text with
        | nil => simp
        | cons d text =>
          simp only [List.foldr_cons, Option.bind_some, Option.map_eq_some_iff, List.map_cons,
            List.cons.injEq, Option.some.injEq]
          constructor
          · rintro ⟨rest, hrest, rfl, rfl⟩
            exact ⟨rfl, ih.mp hrest⟩
          · rintro ⟨rfl, hcs⟩
            exact ⟨text, ih.mpr hcs, rfl, rfl⟩
  unfold decode?
  by_cases hground : (run .ground bytes).2 = .ground
  · rw [if_pos hground, hcollect, Prod.ext_iff]
    simp [hground]
  · rw [if_neg hground, Prod.ext_iff]
    simp [hground]

theorem run_flatMap_encode (text : List Char) :
    run .ground (text.flatMap String.utf8EncodeChar) = (text.map some, .ground) := by
  induction text with
  | nil => rfl
  | cons c text ih => rw [List.flatMap_cons, run_append, run_utf8EncodeChar, ih]; rfl

/-- Without a fault, the bytes are those of the characters that the machine has read. -/
theorem encode_of_run {bad bytes : List UInt8} {s : Utf8State} {text : List Char}
    (hpending : Pending bad s) (hrun : run s bytes = (text.map some, .ground)) :
    bad ++ bytes = text.flatMap String.utf8EncodeChar := by
  induction bytes generalizing bad s text with
  | nil =>
    obtain ⟨htext, rfl⟩ := Prod.mk.inj hrun
    obtain rfl := eq_nil_of_run hpending.run_eq
    obtain rfl := List.map_eq_nil_iff.mp htext.symm
    rfl
  | cons b bytes ih =>
    obtain ⟨htext, hground⟩ := Prod.mk.inj hrun
    -- What one byte completes is a character, and the others are read behind it.
    have hchar : ∀ c, bad ++ [b] = String.utf8EncodeChar c → step s b = ([some c], .ground) →
        bad ++ b :: bytes = text.flatMap String.utf8EncodeChar := by
      intro c hc hstep
      rw [hstep] at htext hground
      obtain ⟨c', text, rfl⟩ : ∃ c' text', text = c' :: text' := by
        cases text with
        | nil => simp at htext
        | cons c' text => exact ⟨c', text, rfl⟩
      simp only [List.singleton_append, List.map_cons, List.cons.injEq, Option.some.injEq] at htext
      rw [List.append_cons, hc, htext.1, List.flatMap_cons,
        ← ih pending_nil (Prod.ext htext.2 hground), List.nil_append]
    have hmore : ∀ s', step s b = ([], s') → Pending (bad ++ [b]) s' →
        bad ++ b :: bytes = text.flatMap String.utf8EncodeChar := by
      intro s' hstep hnext
      rw [hstep] at htext hground
      rw [List.append_cons]
      exact ih hnext (Prod.ext htext hground)
    have hfault : none ∉ (step s b).1 := by
      intro hmem
      have hnone : none ∈ text.map some := htext ▸ List.mem_append_left _ hmem
      simp at hnone
    cases s with
    | ground =>
      obtain rfl := eq_nil_of_run hpending.run_eq
      rcases step_ground_cases b with ⟨c, hc, hstep⟩ | ⟨_, _, _, _, hstep, hb⟩ | hstep
      · exact hchar c hc hstep
      · exact hmore _ hstep hb
      · simp [hstep] at hfault
    | inside value missing low high =>
      rcases step_inside_cases hpending b with ⟨c, hc, hstep⟩ | ⟨_, _, _, _, hstep, hb⟩ | hstep
      · exact hchar c hc hstep
      · exact hmore _ hstep hb
      · simp [hstep] at hfault

/-- Exactly the bytes of a text are decoded, and to that text. -/
theorem decode?_eq_some_iff {bytes : List UInt8} {text : List Char} :
    decode? bytes = some text ↔ bytes = text.flatMap String.utf8EncodeChar := by
  rw [decode?_eq_some_iff_run]
  constructor
  · exact encode_of_run pending_nil
  · rintro rfl
    exact run_flatMap_encode text

theorem decode?_eq_none_iff {bytes : List UInt8} :
    decode? bytes = none ↔ ¬ ∃ text : List Char, bytes = text.flatMap String.utf8EncodeChar := by
  rw [Option.eq_none_iff_forall_ne_some, not_exists]
  exact forall_congr' fun text => not_congr decode?_eq_some_iff

theorem flatMap_encode_injective {text text' : List Char}
    (h : text.flatMap String.utf8EncodeChar = text'.flatMap String.utf8EncodeChar) :
    text = text' :=
  Option.some.inj ((decode?_eq_some_iff.mpr rfl).symm.trans (decode?_eq_some_iff.mpr h))

end PatternServer.Text.Utf8
