import PatternServer.Proofs.LoadedSettings

/-!
# Lists of names

Names can be given in one text with commas between them or as a list of texts, each of which may
hold several. Joining texts with commas joins their names, so both forms mean the same, and names
that have been read once are read again as they are. A text without a comma holds one name, with or
without white space around it, or none.
-/

namespace PatternServer.Data

set_option autoImplicit false

theorem Value.lookup_insert (fields : List (String × Value)) (key : String) (v : Value) :
    lookup key (insert key v fields) = some v := by
  induction fields with
  | nil => simp [insert, lookup]
  | cons f fields ih =>
    rw [insert]
    split
    · simp [lookup]
    · rename_i hne
      rw [lookup, List.find?_cons_of_neg (by simpa using hne)]
      exact ih

end PatternServer.Data

namespace PatternServer.Text

set_option autoImplicit false

section
variable {u v s : List Char}

theorem trimLeft_of_isAllBlank (hu : isAllBlank u = true) : trimLeft u = [] :=
  List.dropWhile_eq_nil_iff.mpr (List.all_eq_true.mp hu)

theorem trimRight_append_blank (hv : isAllBlank v = true) : trimRight (s ++ v) = trimRight s := by
  have hback : ∀ c ∈ v.reverse, isBlank c = true :=
    fun c hc => List.all_eq_true.mp hv c (List.mem_reverse.mp hc)
  rw [trimRight, List.reverse_append, List.dropWhile_append_of_pos hback, ← trimRight]

theorem trim_padded (hu : isAllBlank u = true) (hv : isAllBlank v = true) :
    trim (u ++ (s ++ v)) = trim s := by
  have hfront : trimLeft (u ++ (s ++ v)) = trimLeft (s ++ v) :=
    List.dropWhile_append_of_pos (List.all_eq_true.mp hu)
  rw [trim, hfront, trim, trimLeft, List.dropWhile_append, ← trimLeft, ← trimLeft]
  by_cases hs : trimLeft s = []
  · rw [if_pos (by simp [hs]), hs, trimLeft_of_isAllBlank hv]
  · rw [if_neg (by simpa using hs), trimRight_append_blank hv]

end

theorem comma_notMem_of_isAllBlank {u : List Char} (hu : isAllBlank u = true) : ',' ∉ u := by
  intro hcomma
  have hblank := List.all_eq_true.mp hu ',' hcomma
  exact absurd hblank (by decide)

end PatternServer.Text

namespace PatternServer.Settings

set_option autoImplicit false

open PatternServer.Data PatternServer.Text

/-! Texts. -/

theorem commaNames_empty : commaNames "" = [] := rfl

/-- A comma ends a name, whatever stands around it. -/
theorem commaNames_append_comma (a b : String) :
    commaNames (a ++ "," ++ b) = commaNames a ++ commaNames b := by
  have hpieces : splitOn ',' (a ++ "," ++ b).toList =
      splitOn ',' a.toList ++ splitOn ',' b.toList := by
    have htext : (a ++ "," ++ b).toList = a.toList ++ ',' :: b.toList := by simp
    simp only [htext, splitOn_eq_splitOnP]
    exact List.splitOnP_append_cons _ _ (by simp)
  rw [commaNames, hpieces, List.map_append, List.filterMap_append]
  rfl

theorem commaNames_intercalate (xs : List String) :
    commaNames (",".intercalate xs) = xs.flatMap commaNames := by
  induction xs with
  | nil => rw [String.intercalate_nil, commaNames_empty, List.flatMap_nil]
  | cons x xs ih =>
    cases xs with
    | nil => simp
    | cons y xs =>
      rw [String.intercalate_cons_cons, commaNames_append_comma, ih]
      rfl

/-- Without a comma there is one piece, and it counts unless it is blank. -/
theorem commaNames_of_comma_notMem {s : List Char} (h : ',' ∉ s) :
    commaNames (String.ofList s) =
      if trim s = [] then [] else [String.ofList (trim s)] := by
  have hwhole : splitOn ',' s = [s] := by
    rw [splitOn_eq_splitOnP]
    refine List.splitOnP_eq_singleton fun c hc => ?_
    rw [beq_eq_false_iff_ne]
    rintro rfl
    exact h hc
  rw [commaNames, String.toList_ofList, hwhole]
  by_cases hblank : trim s = []
  · simp [hblank]
  · simp [hblank]

theorem commaNames_of_isAllBlank {u : List Char} (hu : isAllBlank u = true) :
    commaNames (String.ofList u) = [] := by
  rw [commaNames_of_comma_notMem (comma_notMem_of_isAllBlank hu), if_pos]
  rw [trim, trimLeft_of_isAllBlank hu]
  rfl

namespace IsPlainName

variable {name : String}

/-- White space around a plain name is not read. -/
theorem commaNames_padded (h : IsPlainName name) {u v : List Char} (hu : isAllBlank u = true)
    (hv : isAllBlank v = true) :
    commaNames (String.ofList (u ++ (name.toList ++ v))) = [name] := by
  have hcomma : ',' ∉ u ++ (name.toList ++ v) := by
    simp [comma_notMem_of_isAllBlank hu, comma_notMem_of_isAllBlank hv, h.comma_notMem]
  have hne : name.toList ≠ [] := by simpa using h.ne_empty
  rw [commaNames_of_comma_notMem hcomma, trim_padded hu hv, h.trimmed, if_neg hne,
    String.ofList_toList]

theorem commaNames_eq (h : IsPlainName name) : commaNames name = [name] := by
  have hpadded := h.commaNames_padded (u := []) (v := []) rfl rfl
  rwa [List.nil_append, List.append_nil, String.ofList_toList] at hpadded

end IsPlainName

/-! Settings. -/

section
variable {fields : Toml.Fields} {key : String}

theorem nameSetting_insert_text (s : String) :
    nameSetting (Value.insert key (.text s) fields) key = commaNames s := by
  rw [nameSetting, Value.lookup_insert]

theorem nameSetting_insert_texts (xs : List String) :
    nameSetting (Value.insert key (.list (xs.map .text)) fields) key = xs.flatMap commaNames := by
  rw [nameSetting, Value.lookup_insert]
  exact List.flatMap_map _ _ xs

theorem flatMap_commaNames_of_plain {names : List String}
    (h : ∀ name ∈ names, IsPlainName name) : names.flatMap commaNames = names := by
  induction names with
  | nil => rfl
  | cons name names ih =>
    obtain ⟨hname, hnames⟩ := List.forall_mem_cons.mp h
    rw [List.flatMap_cons, hname.commaNames_eq, ih hnames]
    rfl

end

/-- A list of texts gives the same names as one text in which they stand with commas between them,
and these are the names of each text in turn. Names that were read from any table, whatever stood
there, are read as they are when they are given as a list. Between commas, a plain name is read
without the white space around it, and white space alone is nothing. -/
theorem nameSetting_texts (fields : Toml.Fields) (key : String) (xs : List String) :
    let given (v : Value) := nameSetting (Value.insert key v fields) key
    given (.list (xs.map .text)) = given (.text (",".intercalate xs)) ∧
    given (.list (xs.map .text)) = xs.flatMap (fun x => given (.text x)) ∧
    (∀ (others : Toml.Fields) (name : String),
      given (.list ((nameSetting others name).map .text)) = nameSetting others name) ∧
    (∀ name u v, IsPlainName name → isAllBlank u = true → isAllBlank v = true →
      given (.text (String.ofList (u ++ (name.toList ++ v)))) = [name]) ∧
    ∀ u, isAllBlank u = true → given (.text (String.ofList u)) = [] := by
  intro given
  have htext : ∀ s, given (.text s) = commaNames s := fun s => nameSetting_insert_text s
  have htexts : ∀ names : List String,
      given (.list (names.map .text)) = names.flatMap commaNames :=
    fun names => nameSetting_insert_texts names
  refine ⟨?_, ?_, fun others name => ?_, fun name u v hname hu hv => ?_, fun u hu => ?_⟩
  · rw [htexts, htext, commaNames_intercalate]
  · simp only [htexts, htext]
  · rw [htexts]
    exact flatMap_commaNames_of_plain fun _ => nameSetting_plain
  · rw [htext]
    exact hname.commaNames_padded hu hv
  · rw [htext]
    exact commaNames_of_isAllBlank hu

/-- An empty text, a blank one, stray commas and wide white space around a name with a blank. -/
theorem nameSetting_texts_odd :
    let given (v : Value) := nameSetting (Value.insert "extra_samples" v []) "extra_samples"
    let texts := ["", " a,, ", "\u3000b c\t,"]
    given (.list (texts.map .text)) = ["a", "b c"] ∧
      given (.text ", a,, ,\u3000b c\t,") = ["a", "b c"] ∧
      given (.list (["a", "b c"].map .text)) = ["a", "b c"] ∧
      given (.text "\u3000b c\t") = ["b c"] ∧ given (.text "\u3000") = [] := by
  intro given texts
  have hnames : given (.list (texts.map .text)) = ["a", "b c"] := by decide +kernel
  have hname : IsPlainName "b c" := ⟨by decide, by decide +kernel, by decide⟩
  obtain ⟨hjoined, _, hagain, hpadded, hblank⟩ := nameSetting_texts [] "extra_samples" texts
  refine ⟨hnames, hjoined.symm.trans hnames, ?_, ?_, ?_⟩
  · have hread := hagain (Value.insert "extra_samples" (.list (texts.map .text)) [])
      "extra_samples"
    rwa [show nameSetting _ _ = ["a", "b c"] from hnames] at hread
  · exact hpadded "b c" ['\u3000'] ['\t'] hname (by decide) (by decide)
  · exact hblank ['\u3000'] (by decide)

end PatternServer.Settings
