import PatternServer.Proofs.TextRuns
import PatternServer.Proofs.Validation
import PatternServer.Settings.Load

/-!
# Loaded settings can be used as they are

Whatever a configuration file and the environment hold, settings that are loaded from them need no
further checks: there is a command, none of its words is blank, the log level is one of the known
names in its plain form, no text is empty, and the names of samples and functions are plain ones.

This rests on what each kind of value is shown as. A value that counts as given is never shown as an
empty text, so a default only stands in where there is nothing to show.
-/

namespace PatternServer.Number

set_option autoImplicit false

theorem digitChars_ne_nil (n : Nat) : digitChars n ≠ [] :=
  Nat.toDigits_ne_nil

theorem intChars_ne_nil (n : Int) : intChars n ≠ [] := by
  rw [intChars]
  split
  · simp
  · exact digitChars_ne_nil _

theorem Decimal.chars_ne_nil (d : Decimal) : d.chars ≠ [] := by
  simp only [Decimal.chars]
  split
  · split
    · simp
    · split <;> simp
  · simp

theorem Double.chars_ne_nil (d : Double) : d.chars ≠ [] := by
  fun_cases Double.chars d with
  | case1 => decide
  | case2 negative => cases negative <;> decide
  | case3 m e size => simp
  | case4 negative m e size hsign =>
    simp only [size]
    split
    · decide
    · exact Decimal.chars_ne_nil _

end PatternServer.Number

namespace PatternServer.Data

set_option autoImplicit false

open PatternServer.Number

theorem Moment.chars_ne_nil (m : Moment) : m.chars ≠ [] := by
  cases m <;> simp [Moment.chars, Day.chars, ClockTime.chars]

/-- Only the empty text is shown as one. -/
theorem Value.displayChars?_eq_nil_iff (v : Value) : v.displayChars? = some [] ↔ v = .text "" := by
  cases v with
  | null => simp [displayChars?, quotedChars?]
  | bool b => cases b <;> simp [displayChars?, quotedChars?]
  | int n =>
    simp only [displayChars?, quotedChars?, intChars?]
    split <;> simp [intChars_ne_nil]
  | real d => simp [displayChars?, quotedChars?, Double.chars_ne_nil]
  | text s => simp [displayChars?]
  | moment m => simp [displayChars?, Moment.chars_ne_nil]
  | list items => simp [displayChars?, quotedChars?]
  | table fields => simp [displayChars?, quotedChars?]

end PatternServer.Data

namespace PatternServer.Text

set_option autoImplicit false

theorem trimLeft_of_front {s t : List Char} (h : t <+: trimLeft s) : trimLeft t = t := by
  cases t with
  | nil => rfl
  | cons c t =>
    obtain ⟨rest, hrest⟩ := h
    have hc : isBlank c = false := by
      have hhead := List.head?_dropWhile_not isBlank s
      rw [← trimLeft, ← hrest] at hhead
      simpa using hhead
    rw [trimLeft, List.dropWhile_cons_of_neg (by simp [hc])]

theorem trimRight_trimRight (s : List Char) : trimRight (trimRight s) = trimRight s :=
  List.rdropWhile_idempotent isBlank s

theorem trim_trim (s : List Char) : trim (trim s) = trim s := by
  have hleft : trimLeft (trim s) = trim s := trimLeft_of_front (List.rdropWhile_prefix isBlank _)
  rw [trim, hleft]
  exact trimRight_trimRight (trimLeft s)

theorem mem_of_mem_trim {s : List Char} {c : Char} (h : c ∈ trim s) : c ∈ s :=
  (List.dropWhile_suffix isBlank).mem ((List.rdropWhile_prefix isBlank _).mem h)

theorem isAllBlank_of_mem_words {s w : List Char} (h : w ∈ words s) : isAllBlank w = false := by
  obtain ⟨hmem, hne⟩ := List.mem_filter.mp h
  have hne : w ≠ [] := by simpa using hne
  obtain ⟨i, hrun⟩ := (mem_splitOnP_iff hne).mp hmem
  obtain ⟨c, rest, rfl⟩ := List.exists_cons_of_ne_nil hne
  simp [isAllBlank, hrun.plain c List.mem_cons_self]

end PatternServer.Text

namespace PatternServer.Settings

set_option autoImplicit false

open PatternServer.Data PatternServer.Diagnostics PatternServer.Files PatternServer.Text

/-! Texts. -/

theorem display_ne_empty {v : Value} (hv : v.isGiven = true) {s : String}
    (h : display v = .ok s) : s ≠ "" := by
  rintro rfl
  rw [display] at h
  cases hshown : v.display? with
  | none => simp [hshown] at h
  | some s =>
    simp only [hshown] at h
    cases h
    obtain ⟨chars, hchars, hempty⟩ := Option.map_eq_some_iff.mp hshown
    have hnil : chars = [] := by simpa using hempty
    rw [hnil, Value.displayChars?_eq_nil_iff] at hchars
    simp [hchars, Value.isGiven] at hv

theorem textSetting_ne_empty {fromEnvironment key default : String} {fields : Toml.Fields}
    (hdefault : default ≠ "") {s : String}
    (h : textSetting fromEnvironment fields key default = .ok s) : s ≠ "" := by
  rw [textSetting] at h
  split at h
  · cases hv : Value.lookup key fields with
    | none =>
      simp only [hv] at h
      cases h
      exact hdefault
    | some v =>
      simp only [hv] at h
      split at h
      · rename_i hgiven
        exact display_ne_empty hgiven h
      · cases h
        exact hdefault
  · rename_i hgiven
    cases h
    simpa using hgiven

/-! Commands. -/

theorem commandWords_not_blank {items : List Value} {ws : List String}
    (h : commandWords items = .ok ws) : ∀ w ∈ ws, isAllBlank w.toList = false := by
  induction items generalizing ws with
  | nil =>
    cases h
    simp
  | cons v items ih =>
    rw [commandWords] at h
    obtain ⟨s, _, h⟩ := bind_eq_ok h
    obtain ⟨rest, hrest, h⟩ := bind_eq_ok h
    cases hs : isAllBlank s.toList with
    | true =>
      simp only [hs] at h
      cases h
      exact ih hrest
    | false =>
      simp only [hs] at h
      cases h
      intro w hw
      rcases List.mem_cons.mp hw with rfl | hw
      · exact hs
      · exact ih hrest w hw

theorem commandSetting_cases {fields : Toml.Fields} {ws : List String}
    (h : commandSetting fields = .ok ws) :
    ws ≠ [] ∧ (ws = defaultCommand ∨ (∃ s : String, ws = (words s.toList).map String.ofList) ∨
      ∃ items, commandWords items = .ok ws) := by
  have hkept : ∀ {found : List String},
      (do if found.isEmpty then throw (.complaint .commandEmpty)
          return found : Except LoadError (List String)) = .ok ws → found ≠ [] ∧ found = ws := by
    intro found h
    cases hempty : found.isEmpty with
    | true =>
      simp only [hempty] at h
      cases h
    | false =>
      simp only [hempty] at h
      exact ⟨List.isEmpty_eq_false_iff.mp hempty, Except.ok.inj h⟩
  rw [commandSetting] at h
  split at h
  · obtain ⟨found, hfound, h⟩ := bind_eq_ok h
    obtain ⟨hne, rfl⟩ := hkept h
    exact ⟨hne, Or.inl (Except.ok.inj hfound).symm⟩
  · obtain ⟨found, hfound, h⟩ := bind_eq_ok h
    obtain ⟨hne, rfl⟩ := hkept h
    exact ⟨hne, Or.inr (Or.inl ⟨_, (Except.ok.inj hfound).symm⟩)⟩
  · obtain ⟨found, hfound, h⟩ := bind_eq_ok h
    obtain ⟨hne, rfl⟩ := hkept h
    exact ⟨hne, Or.inr (Or.inr ⟨_, hfound⟩)⟩
  · obtain ⟨found, hfound, _⟩ := bind_eq_ok h
    rw [complain] at hfound
    split at hfound <;> cases hfound

theorem commandSetting_not_blank {fields : Toml.Fields} {ws : List String}
    (h : commandSetting fields = .ok ws) : ∀ w ∈ ws, isAllBlank w.toList = false := by
  obtain ⟨_, rfl | ⟨s, rfl⟩ | ⟨items, hitems⟩⟩ := commandSetting_cases h
  · simpa [defaultCommand] using (by decide : isAllBlank "node".toList = false)
  · intro w hw
    obtain ⟨word, hword, rfl⟩ := List.mem_map.mp hw
    rw [String.toList_ofList]
    exact isAllBlank_of_mem_words hword
  · exact commandWords_not_blank hitems

/-! Names. -/

/-- A name that can stand in a list of names between commas as it is. -/
structure IsPlainName (name : String) : Prop where
  ne_empty : name ≠ ""
  trimmed : trim name.toList = name.toList
  comma_notMem : ',' ∉ name.toList

theorem commaNames_plain {s name : String} (h : name ∈ commaNames s) : IsPlainName name := by
  obtain ⟨trimmed, hmem, hname⟩ := List.mem_filterMap.mp h
  obtain ⟨piece, hpiece, rfl⟩ := List.mem_map.mp hmem
  split at hname
  · cases hname
  · rename_i hne
    cases hname
    refine ⟨?_, ?_, ?_⟩
    · simpa using hne
    · rw [String.toList_ofList, trim_trim]
    · rw [String.toList_ofList]
      exact fun hcomma => sep_notMem_of_mem_splitOn hpiece (mem_of_mem_trim hcomma)

theorem nameSetting_plain {fields : Toml.Fields} {key name : String}
    (h : name ∈ nameSetting fields key) : IsPlainName name := by
  rw [nameSetting] at h
  split at h
  · exact commaNames_plain h
  · obtain ⟨v, _, h⟩ := List.mem_flatMap.mp h
    split at h
    · exact commaNames_plain h
    · cases h
  · cases h

/-! Log levels. -/

namespace LogLevel

theorem plainName_of_find {plain : String}
    (h : (names.find? fun n => n.1 == plain).isNone = false) : plainName plain = plain := by
  have hnames : (names.all fun n => plainName n.1 == n.1) = true := by decide +kernel
  obtain ⟨n, hn⟩ := Option.isSome_iff_exists.mp (Option.isNone_eq_false_iff.mp h)
  have hfixed : plainName n.1 = n.1 :=
    eq_of_beq (List.all_eq_true.mp hnames n (List.mem_of_find?_eq_some hn))
  have hname : n.1 = plain := by simpa using List.find?_some hn
  rwa [hname] at hfixed

theorem plainName_of_known {name : String} (h : (ofName? name).isNone = false) :
    plainName (plainName name) = plainName name := by
  rw [ofName?, Option.isNone_map] at h
  exact plainName_of_find h

theorem ofName?_plainName {name : String} (h : (ofName? name).isNone = false) :
    ofName? (plainName name) = ofName? name := by
  simp only [ofName?, plainName_of_known h]

end LogLevel

/-! All settings. -/

/-- Settings that need no further checks. -/
structure IsUsable (s : Settings) : Prop where
  command_ne_nil : s.parser.command ≠ []
  command_not_blank : ∀ w ∈ s.parser.command, isAllBlank w.toList = false
  level : s.level?.isSome = true
  levelName : LogLevel.plainName s.logLevel = s.logLevel
  host : s.engine.host ≠ ""
  module : s.parser.module ≠ ""
  samples : ∀ name ∈ s.extraSamples, IsPlainName name
  functions : ∀ name ∈ s.nonSampleFunctions, IsPlainName name

/-- Settings that are loaded can be used without further checks, whatever the configuration and the
environment hold. -/
theorem load_isUsable {content : Except FileError (List UInt8)} {env : Environment} {homes : Homes}
    {room : Nat} {s : Settings} (h : load content env homes room = .ok s) : s.IsUsable := by
  rw [load] at h
  obtain ⟨config, _, h⟩ := bind_eq_ok h
  obtain ⟨host, hhost, h⟩ := bind_eq_ok h
  obtain ⟨stateText, _, h⟩ := bind_eq_ok h
  obtain ⟨level, _, h⟩ := bind_eq_ok h
  cases hlevel : (LogLevel.ofName? level).isNone with
  | true =>
    simp only [hlevel] at h
    cases h
  | false =>
    simp only [hlevel] at h
    obtain ⟨stateFile, _, h⟩ := bind_eq_ok h
    obtain ⟨settleDelay, _, h⟩ := bind_eq_ok h
    obtain ⟨pollInterval, _, h⟩ := bind_eq_ok h
    obtain ⟨command, hcommand, h⟩ := bind_eq_ok h
    obtain ⟨module, hmodule, h⟩ := bind_eq_ok h
    obtain ⟨timeout, _, h⟩ := bind_eq_ok h
    obtain ⟨restartDelay, _, h⟩ := bind_eq_ok h
    cases h
    have hfound : (LogLevel.ofName? (LogLevel.plainName level)).isSome = true := by
      rw [LogLevel.ofName?_plainName hlevel]
      exact Option.isNone_eq_false_iff.mp hlevel
    exact
      { command_ne_nil := (commandSetting_cases hcommand).1
        command_not_blank := commandSetting_not_blank hcommand
        level := hfound
        levelName := LogLevel.plainName_of_known hlevel
        host := textSetting_ne_empty (by decide) hhost
        module := textSetting_ne_empty (by decide) hmodule
        samples := fun _ => nameSetting_plain
        functions := fun _ => nameSetting_plain }

/-- A command with a number and a blank, a module that is no text, names between stray commas and a
log level in capitals. -/
theorem load_isUsable_odd_values :
    let content := Utf8.encode ("[parser]\ncommand = ['node', 1, ' ']\nmodule = true\n" ++
      "[diagnostics]\nextra_samples = ' a,, b '\n[logging]\nlevel = ' WARN'\n")
    let homes : Homes := ⟨"/home/me".toList, fun _ => none⟩
    let s : Settings :=
      { engine := { Settings.standard.engine with stateFile := Path.ofString "/run/engine" }
        parser := { Settings.standard.parser with command := ["node", "1"], module := "True" }
        extraSamples := ["a", "b"]
        nonSampleFunctions := []
        logLevel := "warn" }
    load (.ok content) ⟨"", "/run/engine", ""⟩ homes = .ok s ∧ s.IsUsable := by
  intro content homes s
  have hload : load (.ok content) ⟨"", "/run/engine", ""⟩ homes = .ok s := by decide +kernel
  exact ⟨hload, load_isUsable hload⟩

end PatternServer.Settings
