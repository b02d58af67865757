import Mathlib.Data.List.Forall2
import PatternServer.Proofs.PositionInverse
import PatternServer.Proofs.Validation

/-!
# Validation in two encodings

The encoding agreed on with an editor decides in which units the columns of a report are counted,
and nothing else. Two validations of one text put in the same remarks, since no remark depends on
the encoding; the ranges of a remark then stand for the same offsets, and so do the keys of the
offers.
-/

namespace PatternServer.Diagnostics

set_option autoImplicit false

open PatternServer.Document PatternServer.Notation PatternServer.Vocabulary

section Places
variable (text : List Char) (e₁ e₂ : Encoding)

/-- The positions that one offset of a text has in two encodings. -/
def SamePlace (p₁ p₂ : Position) : Prop :=
  ∃ a ≤ text.length, p₁ = positionAt e₁ text a ∧ p₂ = positionAt e₂ text a

/-- Diagnostics that differ in the units of their columns only. -/
structure SameDiagnostic (d₁ d₂ : Diagnostic) : Prop where
  severity : d₁.severity = d₂.severity
  code : d₁.code = d₂.code
  message : d₁.message = d₂.message
  source : d₁.source = d₂.source
  start : d₁.range.start.offset e₁ text = d₂.range.start.offset e₂ text
  stop : d₁.range.stop.offset e₁ text = d₂.range.stop.offset e₂ text

/-- The same offer, under the keys of one place. -/
def SameOffer (o₁ o₂ : String × Offer) : Prop :=
  o₁.2 = o₂.2 ∧ ∃ p₁ p₂, SamePlace text e₁ e₂ p₁ p₂ ∧ o₁.1 = p₁.key ∧ o₂.1 = p₂.key

end Places

section Offers
variable {text : List Char} {e₁ e₂ : Encoding}

theorem SamePlace.offset_eq {p₁ p₂ : Position} (h : SamePlace text e₁ e₂ p₁ p₂) :
    p₁.offset e₁ text = p₂.offset e₂ text := by
  obtain ⟨a, ha, rfl, rfl⟩ := h
  rw [offset_positionAt e₁ text ha, offset_positionAt e₂ text ha]

/-- Places that one encoding tells apart are told apart by the other. -/
theorem SamePlace.key_eq_iff {p₁ p₂ q₁ q₂ : Position} (hp : SamePlace text e₁ e₂ p₁ p₂)
    (hq : SamePlace text e₁ e₂ q₁ q₂) : p₁.key = q₁.key ↔ p₂.key = q₂.key := by
  obtain ⟨a, ha, rfl, rfl⟩ := hp
  obtain ⟨b, hb, rfl, rfl⟩ := hq
  constructor
  · intro h
    rw [offset_eq_of_key e₁ text ha hb h]
  · intro h
    rw [offset_eq_of_key e₂ text ha hb h]

theorem SameOffer.key_eq_iff {o₁ o₂ : String × Offer} (ho : SameOffer text e₁ e₂ o₁ o₂)
    {q₁ q₂ : Position} (hq : SamePlace text e₁ e₂ q₁ q₂) : o₁.1 = q₁.key ↔ o₂.1 = q₂.key := by
  obtain ⟨_, p₁, p₂, hp, h₁, h₂⟩ := ho
  rw [h₁, h₂]
  exact hp.key_eq_iff hq

/-- An offer made at one place of two tables that agree. -/
theorem forall₂_putOffer {p₁ p₂ : Position} (hp : SamePlace text e₁ e₂ p₁ p₂) (offer : Offer)
    {os₁ os₂ : List (String × Offer)} (hos : List.Forall₂ (SameOffer text e₁ e₂) os₁ os₂) :
    List.Forall₂ (SameOffer text e₁ e₂) (Report.putOffer p₁.key offer os₁)
      (Report.putOffer p₂.key offer os₂) := by
  have hnew : SameOffer text e₁ e₂ (p₁.key, offer) (p₂.key, offer) :=
    ⟨rfl, p₁, p₂, hp, rfl, rfl⟩
  induction hos with
  | nil => exact .cons hnew .nil
  | @cons o₁ o₂ os₁ os₂ ho hos ih =>
    have hiff := ho.key_eq_iff hp
    simp only [Report.putOffer]
    by_cases h : o₁.1 = p₁.key
    · rw [if_pos h, if_pos (hiff.mp h)]
      exact .cons hnew hos
    · rw [if_neg h, if_neg (mt hiff.mpr h)]
      exact .cons ho ih

/-- Tables that agree give the same offer at one place. -/
theorem find?_eq_of_forall₂ {p₁ p₂ : Position} (hp : SamePlace text e₁ e₂ p₁ p₂)
    {os₁ os₂ : List (String × Offer)} (hos : List.Forall₂ (SameOffer text e₁ e₂) os₁ os₂) :
    (os₁.find? fun o => o.1 == p₁.key).map (·.2) =
      (os₂.find? fun o => o.1 == p₂.key).map (·.2) := by
  induction hos with
  | nil => rfl
  | @cons o₁ o₂ os₁ os₂ ho hos ih =>
    have hiff := ho.key_eq_iff hp
    rw [List.find?_cons, List.find?_cons]
    by_cases h : o₁.1 = p₁.key
    · simp [h, hiff.mp h, ho.1]
    · have h₁ : (o₁.1 == p₁.key) = false := by simpa using h
      have h₂ : (o₂.1 == p₂.key) = false := by simpa using mt hiff.mpr h
      rw [h₁, h₂]
      exact ih

end Offers

/-! The remarks of a validation. -/

theorem mem_of_mapM_eq_ok {ε α β : Type} {f : α → Except ε β} {xs : List α} {ys : List β}
    (h : xs.mapM f = .ok ys) : ∀ y ∈ ys, ∃ x ∈ xs, f x = .ok y := by
  induction xs generalizing ys with
  | nil =>
    cases h
    simp
  | cons x xs ih =>
    rw [List.mapM_cons] at h
    obtain ⟨y, hy, h⟩ := bind_eq_ok h
    obtain ⟨rest, hrest, h⟩ := bind_eq_ok h
    cases h
    intro z hz
    rcases List.mem_cons.mp hz with rfl | hz
    · exact ⟨x, List.mem_cons_self, hy⟩
    · obtain ⟨x', hx', hrun⟩ := ih hrest z hz
      exact ⟨x', List.mem_cons_of_mem x hx', hrun⟩

/-- The remarks that a validation puts in lie in the text. -/
theorem remarks_bounds {ε : Type} {parse : List Char → Except ε Outcome} {c : Context}
    {parts : List (List Remark)}
    (h : (c.checkedLiterals.mapM fun l => outcomeRemarks c.registry l <$> parse l.body) =
      .ok parts) :
    ∀ m ∈ parts.flatten ++ callRemarks c.registry c.text,
      m.start ≤ m.stop ∧ m.stop ≤ c.text.length := by
  intro m hm
  rcases List.mem_append.mp hm with hm | hm
  · obtain ⟨part, hpart, hm⟩ := List.mem_flatten.mp hm
    obtain ⟨l, hl, hrun⟩ := mem_of_mapM_eq_ok h part hpart
    obtain ⟨o, _, ho⟩ := bind_eq_ok hrun
    cases ho
    have hw := outcomeRemarks_within c.registry l o m hm
    exact ⟨hw.ordered, Nat.le_trans hw.stop (c.checkedLiteral_stop hl)⟩
  · obtain ⟨_, site, hsite, hstart, hstop⟩ := mem_callRemarks hm
    have hbound := callSite_bound hsite
    omega

section Reports
variable {text : List Char} {ms : List Remark} (registry : Registry) (e₁ e₂ : Encoding)

/-- The encoding has no say in which literals are checked. -/
theorem checkedLiterals_encoding (text : List Char) :
    (⟨text, e₁, registry⟩ : Context).checkedLiterals =
      (⟨text, e₂, registry⟩ : Context).checkedLiterals := rfl

theorem samePlace_position {a : Nat} (ha : a ≤ text.length) :
    SamePlace text e₁ e₂ ((⟨text, e₁, registry⟩ : Context).position a)
      ((⟨text, e₂, registry⟩ : Context).position a) :=
  ⟨a, ha, rfl, rfl⟩

theorem forall₂_diagnostics (hms : ∀ m ∈ ms, m.start ≤ m.stop ∧ m.stop ≤ text.length) :
    List.Forall₂ (SameDiagnostic text e₁ e₂) (ms.map (⟨text, e₁, registry⟩ : Context).diagnostic)
      (ms.map (⟨text, e₂, registry⟩ : Context).diagnostic) := by
  rw [List.forall₂_map_left_iff, List.forall₂_map_right_iff, List.forall₂_same]
  intro m hm
  obtain ⟨hordered, hstop⟩ := hms m hm
  have hstart := Nat.le_trans hordered hstop
  exact ⟨rfl, rfl, rfl, rfl, (samePlace_position registry e₁ e₂ hstart).offset_eq,
    (samePlace_position registry e₁ e₂ hstop).offset_eq⟩

theorem forall₂_offers_putAll (hms : ∀ m ∈ ms, m.start ≤ m.stop ∧ m.stop ≤ text.length)
    (r₁ r₂ : Report) (h : List.Forall₂ (SameOffer text e₁ e₂) r₁.offers r₂.offers) :
    List.Forall₂ (SameOffer text e₁ e₂)
      ((⟨text, e₁, registry⟩ : Context).putAll r₁ ms).offers
      ((⟨text, e₂, registry⟩ : Context).putAll r₂ ms).offers := by
  induction ms generalizing r₁ r₂ with
  | nil => exact h
  | cons m ms ih =>
    obtain ⟨hordered, hstop⟩ := hms m List.mem_cons_self
    have hplace := samePlace_position registry e₁ e₂ (Nat.le_trans hordered hstop)
    rw [Context.putAll_cons, Context.putAll_cons]
    exact ih (fun n hn => hms n (List.mem_cons_of_mem m hn)) _ _ (forall₂_putOffer hplace m.offer h)

end Reports

/-- Validations of one text in two encodings fail alike, or give as many diagnostics, each with the
same severity, code and message on the same offsets, and the same offers in the same order, each at
the same offset. So the offers at the position of an offset are the same in both. -/
theorem validate_units_only {ε : Type} (parse : List Char → Except ε Outcome) (text : List Char)
    (registry : Registry) (e₁ e₂ : Encoding) :
    (∃ err, validate parse ⟨text, e₁, registry⟩ = .error err ∧
      validate parse ⟨text, e₂, registry⟩ = .error err) ∨
    ∃ r₁ r₂, validate parse ⟨text, e₁, registry⟩ = .ok r₁ ∧
      validate parse ⟨text, e₂, registry⟩ = .ok r₂ ∧
      r₁.diagnostics.length = r₂.diagnostics.length ∧
      List.Forall₂ (SameDiagnostic text e₁ e₂) r₁.diagnostics r₂.diagnostics ∧
      List.Forall₂ (fun o₁ o₂ => o₁.2 = o₂.2 ∧ ∃ p₁ p₂ : Position,
        o₁.1 = p₁.key ∧ o₂.1 = p₂.key ∧ p₁.offset e₁ text = p₂.offset e₂ text)
        r₁.offers r₂.offers ∧
      ∀ a ≤ text.length,
        r₁.offer? (positionAt e₁ text a).key = r₂.offer? (positionAt e₂ text a).key := by
  have h₁ := validate_eq parse ⟨text, e₁, registry⟩
  have h₂ := validate_eq parse ⟨text, e₂, registry⟩
  rw [checkedLiterals_encoding registry e₂ e₁ text] at h₂
  cases hparts : (⟨text, e₁, registry⟩ : Context).checkedLiterals.mapM
      fun l => outcomeRemarks registry l <$> parse l.body with
  | error err =>
    rw [hparts] at h₁ h₂
    exact Or.inl ⟨err, h₁, h₂⟩
  | ok parts =>
    rw [hparts] at h₁ h₂
    have hms := remarks_bounds (c := ⟨text, e₁, registry⟩) hparts
    have hdiagnostics := forall₂_diagnostics registry e₁ e₂ hms
    have hoffers := forall₂_offers_putAll registry e₁ e₂ hms .empty .empty .nil
    refine Or.inr ⟨_, _, h₁, h₂, ?_, ?_, ?_, ?_⟩
    · simp only [Context.diagnostics_putAll, List.length_append, List.length_map]
    · rw [Context.diagnostics_putAll, Context.diagnostics_putAll]
      exact hdiagnostics
    · refine hoffers.imp ?_
      rintro o₁ o₂ ⟨hoffer, p₁, p₂, hplace, hk₁, hk₂⟩
      exact ⟨hoffer, p₁, p₂, hk₁, hk₂, hplace.offset_eq⟩
    · intro a ha
      exact find?_eq_of_forall₂ ⟨a, ha, rfl, rfl⟩ hoffers

/-- A word behind a character of four bytes, which is two units in UTF-16. -/
theorem validate_units_only_behind_pair :
    let parse := parseWith fun _ => .error (.unavailable "")
    let text := "s(\"😀 zz1\")".toList
    5 ≤ text.length ∧ ∃ r₁ r₂, validate parse ⟨text, .utf8, default⟩ = .ok r₁ ∧
      validate parse ⟨text, .utf16, default⟩ = .ok r₂ ∧
      List.Forall₂ (SameDiagnostic text .utf8 .utf16) r₁.diagnostics r₂.diagnostics ∧
      r₁.offer? "0:8" = r₂.offer? "0:6" ∧ (r₁.offer? "0:8").isSome := by
  intro parse text
  have hbound : 5 ≤ text.length := by decide +kernel
  rcases validate_units_only parse text default .utf8 .utf16 with
    ⟨err, herr, _⟩ | ⟨r₁, r₂, h₁, h₂, _, hdiagnostics, _, hoffers⟩
  · have hok : (validate parse ⟨text, .utf8, default⟩).isOk = true := by decide +kernel
    rw [herr] at hok
    cases hok
  · have hoffered : ((validate parse ⟨text, .utf8, default⟩).toOption.bind
        fun r => r.offer? "0:8").isSome = true := by decide +kernel
    rw [h₁] at hoffered
    have hkey₁ : (positionAt .utf8 text (5 : Nat)).key = "0:8" := by decide +kernel
    have hkey₂ : (positionAt .utf16 text (5 : Nat)).key = "0:6" := by decide +kernel
    have hsame := hoffers 5 hbound
    rw [hkey₁, hkey₂] at hsame
    exact ⟨hbound, r₁, r₂, h₁, h₂, hdiagnostics, hsame, hoffered⟩

end PatternServer.Diagnostics
