import PatternServer.Proofs.EditScripts
import PatternServer.Proofs.OfferedWords
import PatternServer.Proofs.RankedSuggestions

/-!
# The function that is offered first

A call of an unknown function is remarked on if there is something to offer, and of all functions
the nearest one is offered first. A function that is the name in other letters is left out of this:
names of functions are told apart by letter case, but distances are not, and what has no distance
from a word is no suggestion for it. So a call that only has the wrong letter case is offered other
functions, or passed over.
-/

namespace PatternServer.Vocabulary

set_option autoImplicit false

open PatternServer.Text

theorem wordDistance_pos_iff {word name : String} :
    0 < wordDistance word name ↔ lowerName name ≠ lowerName word := by
  rw [Nat.pos_iff_ne_zero, wordDistance, Ne, editDistance_eq_zero_iff, lowerName, lowerName, Ne,
    String.ofList_inj, eq_comm]

theorem correction?_eq_lookup (word : String) :
    correction? word = Catalog.corrections.lookup (lowerName word) :=
  find?_map_eq_lookup Catalog.corrections (lowerName word)

theorem suggest_eq_of_ranks {word : String} (h : correction? word = none)
    {vocabulary : List String} {ranked : List (Fin vocabulary.length)}
    (hranked : Ranks word 2 vocabulary ranked) :
    suggest word vocabulary = (ranked.take 3).map vocabulary.get := by
  rw [correction?_eq_lookup] at h
  exact suggestWith_eq_of_ranks h hranked

/-- A name of a vocabulary that is not the word in other letters, and than which no other such name
is nearer to the word. -/
structure IsNearest (word : String) (vocabulary : List String) (name : String) : Prop where
  mem : name ∈ vocabulary
  apart : lowerName name ≠ lowerName word
  least : ∀ other ∈ vocabulary, lowerName other ≠ lowerName word →
    wordDistance word name ≤ wordDistance word other

theorem Ranks.isNearest {word : String} {limit : Int} {vocabulary : List String}
    {i : Fin vocabulary.length} {rest : List (Fin vocabulary.length)}
    (h : Ranks word limit vocabulary (i :: rest)) :
    IsNearest word vocabulary (vocabulary.get i) := by
  obtain ⟨hpos, hlimit⟩ := (h.mem_iff i).mp List.mem_cons_self
  refine ⟨List.get_mem vocabulary i, wordDistance_pos_iff.mp hpos, ?_⟩
  intro other hother hapart
  rw [← wordDistance_pos_iff] at hapart
  obtain ⟨j, rfl⟩ := List.get_of_mem hother
  by_cases hj : j ∈ i :: rest
  · rcases List.mem_cons.mp hj with rfl | hj
    · exact Nat.le_refl _
    · rcases (List.pairwise_cons.mp h.ordered).1 j hj with hlt | ⟨heq, _⟩
      · exact Nat.le_of_lt hlt
      · exact Nat.le_of_eq heq
  · -- Names without a rank are farther away than any with one.
    rw [h.mem_iff] at hj
    omega

theorem suggest_nearest_first {word first : String} {vocabulary rest : List String}
    (h : correction? word = none) (hfirst : suggest word vocabulary = first :: rest) :
    IsNearest word vocabulary first := by
  have hranked := ranks_ranking word 2 vocabulary
  rw [suggest_eq_of_ranks h hranked] at hfirst
  cases hranking : ranking word 2 vocabulary with
  | nil =>
    rw [hranking] at hfirst
    cases hfirst
  | cons i places =>
    rw [hranking] at hfirst hranked
    obtain ⟨rfl, _⟩ := List.cons.inj hfirst
    exact hranked.isNearest

theorem apart_of_mem_suggest {word w : String} {vocabulary : List String}
    (h : correction? word = none) (hw : w ∈ suggest word vocabulary) :
    lowerName w ≠ lowerName word := by
  have hranked := ranks_ranking word 2 vocabulary
  rw [suggest_eq_of_ranks h hranked] at hw
  obtain ⟨i, hi, rfl⟩ := List.mem_map.mp hw
  exact wordDistance_pos_iff.mp ((hranked.mem_iff i).mp (List.mem_of_mem_take hi)).1

theorem suggest_ne_nil_iff {word : String} {vocabulary : List String}
    (h : correction? word = none) :
    suggest word vocabulary ≠ [] ↔
      ∃ name ∈ vocabulary, lowerName name ≠ lowerName word ∧ wordDistance word name ≤ 2 := by
  have hranked := ranks_ranking word 2 vocabulary
  rw [suggest_eq_of_ranks h hranked, Ne, List.map_eq_nil_iff, List.take_eq_nil_iff]
  constructor
  · intro hne
    obtain ⟨i, hi⟩ := List.exists_mem_of_ne_nil _ fun hnil => hne (Or.inr hnil)
    obtain ⟨hpos, hlimit⟩ := (hranked.mem_iff i).mp hi
    exact ⟨vocabulary.get i, List.get_mem vocabulary i, wordDistance_pos_iff.mp hpos, by omega⟩
  · rintro ⟨name, hname, hapart, hnear⟩ hnil
    obtain ⟨i, rfl⟩ := List.get_of_mem hname
    have hi : i ∈ ranking word 2 vocabulary :=
      (hranked.mem_iff i).mpr ⟨wordDistance_pos_iff.mpr hapart, by omega⟩
    rw [hnil.resolve_left (by decide)] at hi
    cases hi

end PatternServer.Vocabulary

namespace PatternServer.Diagnostics

set_option autoImplicit false

open PatternServer.Document PatternServer.Text PatternServer.Vocabulary

def isRemarked (registry : Registry) (site : CallSite) : Bool :=
  !(registry.isFunction (String.ofList site.name) ||
      Catalog.hostMethods.contains (String.ofList site.name)) &&
    !(suggest (String.ofList site.name) registry.functionNames).isEmpty

def callRemark (registry : Registry) (site : CallSite) : Remark :=
  let name := String.ofList site.name
  let suggestions := suggest name registry.functionNames
  ⟨site.start, site.start + site.name.length, .warning, .unknownFunction,
    "Unknown function '" ++ name ++ "'. Did you mean: " ++ ", ".intercalate suggestions ++ "?",
    ⟨.unknownFunction, some name, suggestions⟩⟩

theorem unknownFunction?_of_isRemarked {registry : Registry} {site : CallSite}
    (h : isRemarked registry site = true) :
    Remark.unknownFunction? registry site = some (callRemark registry site) := by
  simp only [isRemarked, Bool.and_eq_true, Bool.not_eq_true'] at h
  simp only [Remark.unknownFunction?, h.1, h.2, Bool.false_eq_true, if_false]
  rfl

theorem unknownFunction?_of_not_isRemarked {registry : Registry} {site : CallSite}
    (h : isRemarked registry site = false) : Remark.unknownFunction? registry site = none := by
  simp only [isRemarked, Bool.and_eq_false_iff, Bool.not_eq_false'] at h
  rcases h with hknown | hempty
  · simp only [Remark.unknownFunction?, hknown, if_true]
  · simp only [Remark.unknownFunction?, hempty, if_true, ite_self]

theorem callRemarks_eq (registry : Registry) (text : List Char) :
    callRemarks registry text =
      ((callSites text).filter (isRemarked registry)).map (callRemark registry) := by
  unfold callRemarks
  induction callSites text with
  | nil => rfl
  | cons site sites ih =>
    cases hsite : isRemarked registry site with
    | true =>
      rw [List.filterMap_cons_some (unknownFunction?_of_isRemarked hsite),
        List.filter_cons_of_pos hsite, List.map_cons, ih]
    | false =>
      rw [List.filterMap_cons_none (unknownFunction?_of_not_isRemarked hsite),
        List.filter_cons_of_neg (Bool.not_eq_true _ ▸ hsite), ih]

theorem isRemarked_iff {registry : Registry} {site : CallSite}
    (h : correction? (String.ofList site.name) = none) :
    isRemarked registry site = true ↔
      registry.isFunction (String.ofList site.name) = false ∧
        String.ofList site.name ∉ Catalog.hostMethods ∧
        ∃ f ∈ registry.functionNames, lowerName f ≠ lowerName (String.ofList site.name) ∧
          wordDistance (String.ofList site.name) f ≤ 2 := by
  rw [← suggest_ne_nil_iff h]
  simp [isRemarked, and_assoc]

namespace Context

variable (c : Context)

theorem offer?_checkCalls (r : Report) {site : CallSite} (hsite : site ∈ callSites c.text)
    (hremarked : isRemarked c.registry site = true) :
    (c.checkCalls r).offer? (c.position site.start).key =
      some (callRemark c.registry site).offer := by
  have hmem : callRemark c.registry site ∈ callRemarks c.registry c.text := by
    rw [callRemarks_eq]
    exact List.mem_map_of_mem (List.mem_filter.mpr ⟨hsite, hremarked⟩)
  obtain ⟨n, hn, hkey, hoffer⟩ := c.exists_offer?_putAll hmem r
  rw [callRemarks_eq] at hn
  obtain ⟨other, hother, rfl⟩ := List.mem_map.mp hn
  replace hother := (List.mem_filter.mp hother).1
  have hbound := callSite_bound hsite
  have hbound' := callSite_bound hother
  have hstart : other.start = site.start :=
    (c.key_position_eq_iff (by omega) (by omega)).mp hkey
  -- No two calls begin at one offset.
  obtain rfl : other = site := by
    by_contra hne
    have hapart := apart_of_ordered (callSitesFrom_ordered 0 c.text) hother hsite hne
    omega
  exact hoffer

/-- The calls that are remarked on, and what is offered for them. Where the table has no correction
for a name, the function offered first is the nearest of all functions of the registry that are not
the name in other letters. Those are not offered at all. A call is then remarked on if and only if
its name is unknown and another function is at most two edits away. -/
theorem checkCalls_nearest_first (r : Report) :
    ∃ remarked : List CallSite, remarked.Sublist (callSites c.text) ∧
      (c.checkCalls r).diagnostics =
        r.diagnostics ++ remarked.map (fun site => c.diagnostic (callRemark c.registry site)) ∧
      (∀ site ∈ remarked, ∃ suggestions,
        (c.checkCalls r).offer? (c.position site.start).key =
          some ⟨.unknownFunction, some (String.ofList site.name), suggestions⟩ ∧
        (correction? (String.ofList site.name) = none →
          (∃ first rest, suggestions = first :: rest ∧
            IsNearest (String.ofList site.name) c.registry.functionNames first) ∧
          ∀ w ∈ suggestions, lowerName w ≠ lowerName (String.ofList site.name))) ∧
      ∀ site ∈ callSites c.text, correction? (String.ofList site.name) = none →
        (site ∈ remarked ↔
          c.registry.isFunction (String.ofList site.name) = false ∧
            String.ofList site.name ∉ Catalog.hostMethods ∧
            ∃ f ∈ c.registry.functionNames,
              lowerName f ≠ lowerName (String.ofList site.name) ∧
                wordDistance (String.ofList site.name) f ≤ 2) := by
  refine ⟨(callSites c.text).filter (isRemarked c.registry), List.filter_sublist, ?_, ?_, ?_⟩
  · rw [checkCalls, diagnostics_putAll, callRemarks_eq, List.map_map]
    rfl
  · intro site hsite
    obtain ⟨hsite, hremarked⟩ := List.mem_filter.mp hsite
    refine ⟨_, c.offer?_checkCalls r hsite hremarked, ?_⟩
    intro hnone
    refine ⟨?_, fun w hw => apart_of_mem_suggest hnone hw⟩
    simp only [isRemarked, Bool.and_eq_true, Bool.not_eq_true', List.isEmpty_eq_false_iff]
      at hremarked
    obtain ⟨first, rest, hfirst⟩ := List.exists_cons_of_ne_nil hremarked.2
    exact ⟨first, rest, hfirst, suggest_nearest_first hnone hfirst⟩
  · intro site hsite hnone
    rw [List.mem_filter, ← isRemarked_iff hnone]
    exact and_iff_right hsite

/-- A call that only has the wrong letter case is offered the next function, and is passed over if
there is none. -/
theorem checkCalls_other_letters :
    let registry (names : List String) : Registry :=
      .ofNames Catalog.sampleNames Catalog.bankNames (names.map fun name => ⟨name, "", "", []⟩) []
    let report (names : List String) : Report :=
      (⟨"x.LPF(1)".toList, .utf16, registry names⟩ : Context).checkCalls .empty
    (report ["lpf", "hpf"]).offers = [("0:2", ⟨.unknownFunction, some "LPF", ["hpf"]⟩)] ∧
      (report ["lpf"]).diagnostics = [] ∧ correction? "LPF" = none ∧
      wordDistance "LPF" "lpf" = 0 ∧ wordDistance "LPF" "hpf" = 1 := by
  decide +kernel

end Context

end PatternServer.Diagnostics
