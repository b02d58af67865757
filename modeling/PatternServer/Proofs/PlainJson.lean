import PatternServer.Data.JsonText
import PatternServer.Text.ControlSequence

/-!
# JSON is written in plain characters

Whatever characters are in a value, none but those of ASCII are in the JSON that is written for it,
and the escape character is not among them. A text without it has no control sequences to lose.
-/

namespace PatternServer.Data.Json

set_option autoImplicit false

open PatternServer.Number PatternServer.Text

def IsPlain (c : Char) : Prop := c.toNat < 0x80 ∧ c ≠ escapeCharacter

instance (c : Char) : Decidable (IsPlain c) := inferInstanceAs (Decidable (_ ∧ _))

def Plain (s : List Char) : Prop := ∀ c ∈ s, IsPlain c

namespace Plain

theorem nil : Plain [] := by
  intro c hc
  cases hc

theorem cons {c : Char} {s : List Char} (hc : IsPlain c) (hs : Plain s) :
    Plain (c :: s) := by
  intro d hd
  rcases List.mem_cons.mp hd with rfl | hd
  · exact hc
  · exact hs d hd

theorem append {s t : List Char} (hs : Plain s) (ht : Plain t) : Plain (s ++ t) := by
  intro c hc
  rcases List.mem_append.mp hc with hc | hc
  · exact hs c hc
  · exact ht c hc

theorem of_all {s : List Char} (h : (s.all fun c => decide (IsPlain c)) = true) : Plain s := by
  intro c hc
  exact of_decide_eq_true (List.all_eq_true.mp h c hc)

theorem replicate (n : Nat) {c : Char} (hc : IsPlain c) : Plain (List.replicate n c) := by
  intro d hd
  rw [List.eq_of_mem_replicate hd]
  exact hc

theorem of_sublist {s t : List Char} (ht : Plain t) (h : s.Sublist t) : Plain s := by
  intro c hc
  exact ht c (h.subset hc)

theorem flatten {parts : List (List Char)} (h : ∀ s ∈ parts, Plain s) : Plain parts.flatten := by
  intro c hc
  obtain ⟨s, hs, hc⟩ := List.mem_flatten.mp hc
  exact h s hs c hc

end Plain

/-! Numbers. -/

theorem digitChar_plain {n : Nat} (h : n < 16) : IsPlain (Nat.digitChar n) := by
  revert n
  decide

theorem toDigits_plain {b : Nat} (hb : 1 < b) (hb' : b ≤ 16) (n : Nat) :
    Plain (Nat.toDigits b n) := by
  induction n using Nat.strongRecOn with
  | ind n ih =>
    by_cases h : n < b
    · rw [Nat.toDigits_of_lt_base h]
      exact .cons (digitChar_plain (by omega)) .nil
    · have hmod : n % b < b := Nat.mod_lt n (by omega)
      rw [Nat.toDigits_of_base_le hb (by omega)]
      refine .append (ih (n / b) (Nat.div_lt_self (by omega) hb)) ?_
      exact .cons (digitChar_plain (by omega)) .nil

theorem padZeros_plain {s : List Char} (width : Nat) (hs : Plain s) :
    Plain (padZeros width s) :=
  .append (.replicate _ (by decide)) hs

theorem digitChars_plain (n : Nat) : Plain (digitChars n) :=
  toDigits_plain (by decide) (by decide) n

theorem intChars_plain (n : Int) : Plain (intChars n) := by
  unfold intChars
  split
  · exact .cons (by decide) (digitChars_plain _)
  · exact digitChars_plain _

theorem decimalChars_plain (d : Decimal) : Plain d.chars := by
  have hds := digitChars_plain d.digits
  unfold Decimal.chars
  simp only
  split
  · split
    · exact .cons (by decide) (.cons (by decide) (.append (.replicate _ (by decide)) hds))
    · split
      · exact .append (.append hds (.replicate _ (by decide)))
          (.cons (by decide) (.cons (by decide) .nil))
      · exact .append (hds.of_sublist (List.take_sublist _ _))
          (.cons (by decide) (hds.of_sublist (List.drop_sublist _ _)))
  · refine .append ?_ (.cons (by decide) (.cons ?_ (padZeros_plain 2 (digitChars_plain _))))
    · split
      · exact .nil
      · rename_i c hc
        rwa [hc] at hds
      · rename_i c rest _ hc
        rw [hc] at hds
        exact .cons (hds c List.mem_cons_self)
          (.cons (by decide) (hds.of_sublist (List.sublist_cons_self c rest)))
    · split <;> decide

theorem realChars_plain (d : Double) : Plain (realChars d) := by
  unfold realChars
  split
  · exact .of_all (by decide)
  · split
    · exact .of_all (by decide)
    · exact .of_all (by decide)
  · unfold Double.chars
    split
    · exact .of_all (by decide)
    · split
      · exact .of_all (by decide)
      · exact .of_all (by decide)
    · have hsize : ∀ m e, Plain (if m = 0 then "0.0".toList else (shortestDecimal m e).chars) := by
        intro m e
        split
        · exact .of_all (by decide)
        · exact decimalChars_plain _
      simp only
      split
      · exact .cons (by decide) (hsize _ _)
      · exact hsize _ _

/-! Strings. -/

theorem escapeUnit_plain (n : Nat) : Plain (escapeUnit n) :=
  .cons (by decide) (.cons (by decide)
    (padZeros_plain 4 (toDigits_plain (by decide) (by decide) n)))

theorem escapeChar_plain (c : Char) : Plain (escapeChar c) := by
  have hpair : ∀ d : Char, IsPlain d → Plain ['\\', d] := fun d hd =>
    .cons (by decide) (.cons hd .nil)
  unfold escapeChar
  split
  · rename_i hc
    exact hpair c (by rcases hc with rfl | rfl <;> decide)
  · split
    · exact hpair 'n' (by decide)
    · split
      · exact hpair 'r' (by decide)
      · split
        · exact hpair 't' (by decide)
        · split
          · exact hpair 'b' (by decide)
          · split
            · exact hpair 'f' (by decide)
            · split
              · rename_i hc
                refine .cons ⟨by omega, ?_⟩ .nil
                rintro rfl
                exact absurd hc.1 (by decide)
              · split
                · exact escapeUnit_plain _
                · exact .append (escapeUnit_plain _) (escapeUnit_plain _)

theorem stringChars_plain (s : String) : Plain (stringChars s) := by
  refine .cons (by decide) (.append ?_ (.cons (by decide) .nil))
  intro c hc
  obtain ⟨d, _, hc⟩ := List.mem_flatMap.mp hc
  exact escapeChar_plain d c hc

/-! Values. -/

structure Layout.PutsPlain (layout : Layout) : Prop where
  lead : ∀ depth, Plain (layout.lead depth)
  comma : Plain layout.comma

theorem Layout.indented_plain : Layout.indented.PutsPlain where
  lead := fun _ => .cons (by decide) (.replicate _ (by decide))
  comma := .cons (by decide) .nil

theorem mem_intersperse {α : Type} {sep a : α} {l : List α} (h : a ∈ l.intersperse sep) :
    a = sep ∨ a ∈ l := by
  induction l with
  | nil => exact Or.inr h
  | cons b l ih =>
    cases l with
    | nil => exact Or.inr h
    | cons c l =>
      rw [List.intersperse_cons_cons] at h
      rcases List.mem_cons.mp h with rfl | h
      · exact Or.inr List.mem_cons_self
      · rcases List.mem_cons.mp h with rfl | h
        · exact Or.inl rfl
        · exact (ih h).imp_right (List.mem_cons_of_mem b)

theorem container_plain {layout : Layout} (hlayout : layout.PutsPlain) (depth : Nat)
    {opening closing : Char} (hopening : IsPlain opening) (hclosing : IsPlain closing)
    {parts : List (List Char)} (h : ∀ s ∈ parts, Plain s) :
    Plain (container layout depth opening closing parts) := by
  unfold container
  split
  · exact .cons hopening (.cons hclosing .nil)
  · refine .cons hopening (.append (.append (.flatten ?_) (hlayout.lead depth))
      (.cons hclosing .nil))
    intro s hs
    rcases mem_intersperse hs with rfl | hs
    · exact hlayout.comma
    · obtain ⟨part, hpart, rfl⟩ := List.mem_map.mp hs
      exact .append (hlayout.lead _) (h part hpart)

mutual

theorem valueChars_plain {layout : Layout} (hlayout : layout.PutsPlain) (depth : Nat) (v : Value) :
    Plain (valueChars layout depth v) := by
  match v with
  | .null =>
    rw [valueChars]
    exact .of_all (by decide)
  | .bool b =>
    rw [valueChars]
    cases b <;> exact .of_all (by decide)
  | .int n =>
    rw [valueChars]
    exact intChars_plain n
  | .real d =>
    rw [valueChars]
    exact realChars_plain d
  | .text s =>
    rw [valueChars]
    exact stringChars_plain s
  | .moment m =>
    rw [valueChars]
    exact stringChars_plain _
  | .list items =>
    rw [valueChars]
    exact container_plain hlayout depth (by decide) (by decide)
      (itemChars_plain hlayout _ items)
  | .table fields =>
    rw [valueChars]
    exact container_plain hlayout depth (by decide) (by decide)
      (fieldChars_plain hlayout _ fields)

theorem itemChars_plain {layout : Layout} (hlayout : layout.PutsPlain) (depth : Nat)
    (items : List Value) :
    ∀ s ∈ itemChars layout depth items, Plain s := by
  match items with
  | [] =>
    rw [itemChars]
    simp
  | v :: rest =>
    rw [itemChars, List.forall_mem_cons]
    exact ⟨valueChars_plain hlayout depth v, itemChars_plain hlayout depth rest⟩

theorem fieldChars_plain {layout : Layout} (hlayout : layout.PutsPlain) (depth : Nat)
    (fields : List (String × Value)) :
    ∀ s ∈ fieldChars layout depth fields, Plain s := by
  match fields with
  | [] =>
    rw [fieldChars]
    simp
  | (k, v) :: rest =>
    rw [fieldChars, List.forall_mem_cons]
    refine ⟨?_, fieldChars_plain hlayout depth rest⟩
    exact .append (stringChars_plain k)
      (.cons (by decide) (.cons (by decide) (valueChars_plain hlayout depth v)))

end

theorem write_plain {layout : Layout} (hlayout : layout.PutsPlain) (v : Value) :
    Plain (write layout v).toList := by
  rw [write, String.toList_ofList]
  exact valueChars_plain hlayout 0 v

end PatternServer.Data.Json

namespace PatternServer.Text

theorem dropSequences_eq_self {s : List Char} (h : escapeCharacter ∉ s) :
    dropSequences [] s = s := by
  induction s with
  | nil => rfl
  | cons c s ih =>
    rw [List.mem_cons, not_or] at h
    rw [dropSequences, if_neg (Ne.symm h.1), ih h.2]

theorem plainText_eq_self {s : String} (h : escapeCharacter ∉ s.toList) : plainText s = s := by
  rw [plainText, dropSequences_eq_self h, String.ofList_toList]

end PatternServer.Text
