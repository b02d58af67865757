import PatternServer.Command.Run
import PatternServer.Proofs.EncodingIndependence
import PatternServer.Proofs.ParseOutcomes
import PatternServer.Proofs.PlainJson
import PatternServer.Proofs.Utf8Decoding

/-!
# Checking files

Checking files that can be read ends with exit code one if and only if one of them has a literal
that is not skipped and that the parser refuses, and what is printed are the findings of the files
in their order. Two things can get in the way: a report of the parser that needs a number beyond the
digit limit, and findings with a character that the output does not take. For JSON it has to take
ASCII only, and JSON is printed as it is, while lines of text lose their control sequences. The
parser is let go once in any case, before anything is printed.
-/

namespace PatternServer

set_option autoImplicit false

/-- A failure that is an error of its literal: it has a place, or the parser ran. -/
def Notation.Failure.Counts (f : Notation.Failure) : Prop :=
  f.span.isSome = true ∨ f.parserRan = true

namespace Diagnostics

open PatternServer.Document PatternServer.Notation PatternServer.Vocabulary

/-! Which remarks are errors. -/

theorem Remark.OnUnknown.severity {registry : Registry} {m : Remark}
    (h : m.OnUnknown registry) : m.severity ≠ .error := by
  obtain ⟨word, a, b, _, rfl⟩ := h
  unfold unknownSample
  simp only
  split <;> simp

theorem outcomeRemarks_error_iff (registry : Registry) (l : Literal) (o : Outcome) :
    (∃ m ∈ outcomeRemarks registry l o, m.severity = .error) ↔
      ∃ f, o = .failure f ∧ f.Counts := by
  have hwords : ∀ taken, ¬ ∃ m ∈ fallbackRemarks registry l taken (fallbackTokens l.body),
      m.severity = .error := by
    rintro taken ⟨m, hm, herror⟩
    exact (fallbackRemarks_onUnknown registry l taken _ m hm).severity herror
  cases o with
  | success leaves =>
    refine iff_of_false ?_ (by simp)
    rintro ⟨m, hm, herror⟩
    exact (leafRemarks_onUnknown registry l leaves m hm).severity herror
  | failure f =>
    simp only [Outcome.failure.injEq, exists_eq_left', Failure.Counts]
    cases hspan : f.span with
    | some span =>
      refine iff_of_true ?_ (Or.inl rfl)
      simp [outcomeRemarks, hspan, Remark.parseError]
    | none =>
      by_cases hran : f.parserRan = true
      · refine iff_of_true ?_ (Or.inr hran)
        simp [outcomeRemarks, hspan, hran, Remark.parseError]
      · refine iff_of_false ?_ (by simp [hran])
        simpa [outcomeRemarks, hspan, hran] using hwords []

theorem callRemarks_severity {registry : Registry} {text : List Char} {m : Remark}
    (h : m ∈ callRemarks registry text) : m.severity = .warning := by
  obtain ⟨site, _, hm⟩ := List.mem_filterMap.mp h
  simp only [Remark.unknownFunction?] at hm
  split at hm
  · cases hm
  · split at hm
    · cases hm
    · cases hm
      rfl

/-! A validation by its outcomes. -/

theorem exists_of_mapM_eq_ok {ε α β : Type} {f : α → Except ε β} {xs : List α} {ys : List β}
    (h : xs.mapM f = .ok ys) : ∀ x ∈ xs, ∃ y ∈ ys, f x = .ok y := by
  induction xs generalizing ys with
  | nil => simp
  | cons x xs ih =>
    rw [List.mapM_cons] at h
    obtain ⟨y, hy, h⟩ := bind_eq_ok h
    obtain ⟨rest, hrest, h⟩ := bind_eq_ok h
    cases h
    rw [List.forall_mem_cons]
    refine ⟨⟨y, List.mem_cons_self, hy⟩, fun x' hx' => ?_⟩
    obtain ⟨y', hy', hrun⟩ := ih hrest x' hx'
    exact ⟨y', List.mem_cons_of_mem y hy', hrun⟩

theorem exists_of_mapM_eq_error {ε α β : Type} {f : α → Except ε β} {xs : List α} {e : ε}
    (h : xs.mapM f = .error e) : ∃ x ∈ xs, f x = .error e := by
  induction xs with
  | nil => cases h
  | cons x xs ih =>
    rw [List.mapM_cons] at h
    cases hx : f x with
    | error e' =>
      rw [hx] at h
      cases h
      exact ⟨x, List.mem_cons_self, hx⟩
    | ok y =>
      rw [hx] at h
      cases hrest : xs.mapM f with
      | error e' =>
        rw [hrest] at h
        cases h
        obtain ⟨x', hx', hrun⟩ := ih hrest
        exact ⟨x', List.mem_cons_of_mem x hx', hrun⟩
      | ok ys =>
        rw [hrest] at h
        cases h

theorem map_eq_error {ε α β : Type} {g : α → β} {x : Except ε α} {e : ε}
    (h : g <$> x = .error e) : x = .error e := by
  cases x with
  | error e' =>
    cases h
    rfl
  | ok a => cases h

/-- Every remark on the outcome of a checked literal has its diagnostic. -/
theorem diagnostic_mem_validate {ε : Type} {parse : List Char → Except ε Outcome} {c : Context}
    {report : Report} (h : validate parse c = .ok report) {l : Literal}
    (hl : l ∈ c.checkedLiterals) {o : Outcome} (ho : parse l.body = .ok o) {m : Remark}
    (hm : m ∈ outcomeRemarks c.registry l o) : c.diagnostic m ∈ report.diagnostics := by
  rw [validate_eq] at h
  obtain ⟨parts, hparts, h⟩ := bind_eq_ok h
  cases h
  obtain ⟨part, hpart, hrun⟩ := exists_of_mapM_eq_ok hparts l hl
  rw [ho] at hrun
  cases hrun
  rw [c.diagnostics_putAll]
  refine List.mem_append_right _ (List.mem_map_of_mem ?_)
  exact List.mem_append_left _ (List.mem_flatten.mpr ⟨_, hpart, hm⟩)

/-- A literal that is not skipped and whose failed parse counts. -/
def HasError {ε : Type} (parse : List Char → Except ε Outcome) (c : Context) : Prop :=
  ∃ l ∈ literals c.text, c.skips l = false ∧
    ∃ f, parse l.body = .ok (.failure f) ∧ f.Counts

/-- There is an error among the diagnostics of a document exactly if there is one in it. -/
theorem exists_error_validate_iff {ε : Type} {parse : List Char → Except ε Outcome} {c : Context}
    {report : Report} (h : validate parse c = .ok report) :
    (∃ d ∈ report.diagnostics, d.severity.getD .error = .error) ↔ HasError parse c := by
  constructor
  · rintro ⟨d, hd, herror⟩
    rw [validate_eq] at h
    obtain ⟨parts, hparts, h⟩ := bind_eq_ok h
    cases h
    rw [c.diagnostics_putAll] at hd
    obtain ⟨m, hm, rfl⟩ := List.mem_map.mp hd
    have herror : m.severity = .error := herror
    rcases List.mem_append.mp hm with hm | hm
    · obtain ⟨part, hpart, hm⟩ := List.mem_flatten.mp hm
      obtain ⟨l, hl, hrun⟩ := mem_of_mapM_eq_ok hparts part hpart
      obtain ⟨o, ho, hrun⟩ := bind_eq_ok hrun
      cases hrun
      obtain ⟨f, rfl, hcounts⟩ := (outcomeRemarks_error_iff _ l o).mp ⟨m, hm, herror⟩
      obtain ⟨hliteral, hskips⟩ := c.mem_checkedLiterals.mp hl
      exact ⟨l, hliteral, hskips, f, ho, hcounts⟩
    · rw [callRemarks_severity hm] at herror
      cases herror
  · rintro ⟨l, hliteral, hskips, f, hf, hcounts⟩
    obtain ⟨m, hm, herror⟩ := (outcomeRemarks_error_iff c.registry l _).mpr ⟨f, rfl, hcounts⟩
    have hl := c.mem_checkedLiterals.mpr ⟨hliteral, hskips⟩
    exact ⟨_, diagnostic_mem_validate h hl hf hm, herror⟩

/-- A validation fails if the parse of a checked literal does. -/
theorem validate_cases {ε : Type} (parse : List Char → Except ε Outcome) (c : Context) :
    (∃ e, validate parse c = .error e) ∧
        (∃ l ∈ literals c.text, c.skips l = false ∧ ∃ e, parse l.body = .error e) ∨
      ∃ report, validate parse c = .ok report ∧
        ∀ l ∈ literals c.text, c.skips l = false → ∃ o, parse l.body = .ok o := by
  cases hreport : validate parse c with
  | error e =>
    rw [validate_eq] at hreport
    obtain ⟨l, hl, hrun⟩ := exists_of_mapM_eq_error (map_eq_error hreport)
    obtain ⟨hliteral, hskips⟩ := c.mem_checkedLiterals.mp hl
    exact Or.inl ⟨⟨e, rfl⟩, l, hliteral, hskips, e, map_eq_error hrun⟩
  | ok report =>
    refine Or.inr ⟨report, rfl, fun l hl hskips => ?_⟩
    rw [validate_eq] at hreport
    obtain ⟨parts, hparts, _⟩ := bind_eq_ok hreport
    obtain ⟨part, _, hrun⟩ :=
      exists_of_mapM_eq_ok hparts l (c.mem_checkedLiterals.mpr ⟨hl, hskips⟩)
    obtain ⟨o, ho, _⟩ := bind_eq_ok hrun
    exact ⟨o, ho⟩

/-- A literal that is not skipped and about which the parser reports a number beyond the limit. -/
def HasOverlong (parser : List Char → Except Refusal (List Leaf)) (c : Context) : Prop :=
  ∃ l ∈ literals c.text, c.skips l = false ∧
    ∃ report, parser (quoteBody l.body) = .error (.syntaxError report) ∧ Overlong report

theorem validate_parseWith_cases (parser : List Char → Except Refusal (List Leaf)) (c : Context) :
    validate (parseWith parser) c = .error .tooManyDigits ∧ HasOverlong parser c ∨
      ∃ report, validate (parseWith parser) c = .ok report ∧ ¬ HasOverlong parser c := by
  rcases validate_cases (parseWith parser) c with
    ⟨⟨e, he⟩, l, hl, hskips, e', he'⟩ | ⟨report, hreport, hall⟩
  · refine Or.inl ⟨he, l, hl, hskips, ?_⟩
    exact (parseWith_fails_iff parser l.body).mp he'
  · refine Or.inr ⟨report, hreport, ?_⟩
    rintro ⟨l, hl, hskips, hlong⟩
    obtain ⟨o, ho⟩ := hall l hl hskips
    rw [(parseWith_fails_iff parser l.body).mpr hlong] at ho
    cases ho

/-- A parser that cannot be had is no error of any document. -/
theorem not_hasError_of_unavailable {parser : List Char → Except Refusal (List Leaf)}
    (h : ∀ body, ∃ message, parser body = .error (.unavailable message)) (c : Context) :
    ¬ HasOverlong parser c ∧ ¬ HasError (parseWith parser) c := by
  constructor
  · rintro ⟨l, _, _, report, hreport, _⟩
    obtain ⟨message, hmessage⟩ := h (quoteBody l.body)
    rw [hmessage] at hreport
    cases hreport
  · rintro ⟨l, _, _, f, hf, hcounts⟩
    obtain ⟨message, hmessage⟩ := h (quoteBody l.body)
    rw [parseWith, hmessage] at hf
    cases hf
    rcases hcounts with hspan | hran
    · cases hspan
    · cases hran

end Diagnostics

namespace Command

open PatternServer.Diagnostics PatternServer.Document PatternServer.Files PatternServer.Text

/-- What a file is validated against. -/
def contextOf (settings : Settings) (text : List Char) : Context :=
  ⟨unifyLineEnds text, .utf32, Server.registryOf settings⟩

def fileFindings (path : Path) (report : Report) : List Finding :=
  report.diagnostics.map (Finding.ofDiagnostic path report)

/-- The findings in files, in the order of the files. -/
def findingsIn (files : List (Path × List Char)) (report : List Char → Report) : List Finding :=
  files.flatMap fun file => fileFindings file.1 (report file.2)

theorem findingsIn_cons (file : Path × List Char) (files : List (Path × List Char))
    (report : List Char → Report) :
    findingsIn (file :: files) report =
      fileFindings file.1 (report file.2) ++ findingsIn files report :=
  List.flatMap_cons

/-- A file of a path and a text. -/
def stored (file : Path × List Char) : Path × List UInt8 :=
  (file.1, file.2.flatMap String.utf8EncodeChar)

theorem checkFile_stored (parser : Server.Parser) (settings : Settings)
    (file : Path × List Char) :
    checkFile parser (Server.registryOf settings) (stored file).1 (stored file).2 =
      match validate (parseWith parser) (contextOf settings file.2) with
      | .error .tooManyDigits => .error .tooManyDigits
      | .ok report => .ok (fileFindings file.1 report) := by
  simp only [checkFile, stored, Utf8.decode?_eq_some_iff.mpr rfl]
  rfl

/-- The report on a text, if there is one. -/
def reportOn (parser : Server.Parser) (settings : Settings) (text : List Char) : Report :=
  match validate (parseWith parser) (contextOf settings text) with
  | .ok report => report
  | .error _ => .empty

theorem checkFiles_cases (parser : Server.Parser) (settings : Settings)
    (files : List (Path × List Char)) :
    checkFiles parser (Server.registryOf settings) (files.map stored) = .error .tooManyDigits ∧
        (∃ file ∈ files, HasOverlong parser (contextOf settings file.2)) ∨
      checkFiles parser (Server.registryOf settings) (files.map stored) =
          .ok (findingsIn files (reportOn parser settings)) ∧
        ∀ file ∈ files, ¬ HasOverlong parser (contextOf settings file.2) := by
  induction files with
  | nil => exact Or.inr ⟨rfl, by simp⟩
  | cons file files ih =>
    have hfile := checkFile_stored parser settings file
    rw [List.map_cons, checkFiles, hfile]
    rcases validate_parseWith_cases parser (contextOf settings file.2) with
      ⟨herror, hlong⟩ | ⟨report, hreport, hshort⟩
    · rw [herror]
      exact Or.inl ⟨rfl, file, List.mem_cons_self, hlong⟩
    · have hon : reportOn parser settings file.2 = report := by
        simp only [reportOn, hreport]
      rw [hreport]
      rcases ih with ⟨herror, other, hother, hlong⟩ | ⟨hok, hall⟩
      · rw [herror]
        exact Or.inl ⟨rfl, other, List.mem_cons_of_mem file hother, hlong⟩
      · rw [hok]
        refine Or.inr ⟨?_, List.forall_mem_cons.mpr ⟨hshort, hall⟩⟩
        rw [findingsIn_cons, hon]
        rfl

theorem validate_reportOn {parser : Server.Parser} {settings : Settings} {text : List Char}
    (h : ¬ HasOverlong parser (contextOf settings text)) :
    validate (parseWith parser) (contextOf settings text) =
      .ok (reportOn parser settings text) := by
  rcases validate_parseWith_cases parser (contextOf settings text) with
    ⟨_, hlong⟩ | ⟨report, hreport, _⟩
  · exact absurd hlong h
  · simp only [reportOn, hreport]

/-! How a run ends. -/

theorem exitCode_cases (findings : List Finding) :
    exitCode findings = 1 ∧ (∃ f ∈ findings, f.severity = .error) ∨
      exitCode findings = 0 ∧ ¬ ∃ f ∈ findings, f.severity = .error := by
  unfold exitCode
  split
  · rename_i h
    exact Or.inl ⟨rfl, by simpa using h⟩
  · rename_i h
    exact Or.inr ⟨rfl, by simpa using h⟩

theorem exists_error_findings_iff (files : List (Path × List Char)) (report : List Char → Report) :
    (∃ f ∈ findingsIn files report, f.severity = .error) ↔
      ∃ file ∈ files, ∃ d ∈ (report file.2).diagnostics, d.severity.getD .error = .error := by
  constructor
  · rintro ⟨f, hf, herror⟩
    obtain ⟨file, hfile, hf⟩ := List.mem_flatMap.mp hf
    obtain ⟨d, hd, rfl⟩ := List.mem_map.mp hf
    exact ⟨file, hfile, d, hd, herror⟩
  · rintro ⟨file, hfile, d, hd, herror⟩
    exact ⟨_, List.mem_flatMap.mpr ⟨file, hfile, List.mem_map.mpr ⟨d, hd, rfl⟩⟩, herror⟩

/-- Lines in which the output takes every character. -/
def Printable (takes : Char → Bool) (lines : List String) : Prop :=
  ∀ line ∈ lines, ∀ c ∈ (plainText line).toList, takes c = true

theorem printable_iff {takes : Char → Bool} {lines : List String} :
    Printable takes lines ↔
      ∀ line ∈ lines.map plainText, line.toList.all takes = true := by
  simp [Printable]

theorem ofLines_printable {takes : Char → Bool} (exit : Nat) {lines : List String}
    (h : Printable takes lines) :
    Outcome.ofLines takes exit lines =
      { Outcome.quiet exit with stdout := String.join (lines.map plainText) } := by
  have hgood := printable_iff.mp h
  simp only [Outcome.ofLines]
  rw [if_pos (List.all_eq_true.mpr hgood), List.takeWhile_eq_self_iff.mpr hgood]

theorem ofLines_unprintable {takes : Char → Bool} (exit : Nat) {lines : List String}
    (h : ¬ Printable takes lines) :
    Outcome.ofLines takes exit lines =
      { Outcome.crashed .unprintable with
        stdout := String.join
          ((lines.map plainText).takeWhile fun line => line.toList.all takes) } := by
  simp only [Outcome.ofLines]
  rw [if_neg fun hall => h (printable_iff.mpr (List.all_eq_true.mp hall))]

/-- What control sequences are made of. -/
def isInSequence (c : Char) : Bool :=
  c == escapeCharacter || c == '[' || isParameter c || c.isAlpha

theorem mem_dropSequences {c : Char} (hc : isInSequence c = false) {s : List Char} (h : c ∈ s)
    (held : List Char) : c ∈ dropSequences held s := by
  simp only [isInSequence, Bool.or_eq_false_iff, beq_eq_false_iff_ne] at hc
  obtain ⟨⟨⟨hescape, hbracket⟩, hparameter⟩, halpha⟩ := hc
  fun_induction dropSequences held s with
  | case1 held => cases h
  | case2 rest ih => exact ih ((List.mem_cons.mp h).resolve_left hescape)
  | case3 x rest _ ih =>
    rcases List.mem_cons.mp h with rfl | h
    · exact List.mem_cons_self
    · exact List.mem_cons_of_mem _ (ih h)
  | case4 x held y rest opened hends ih =>
    refine ih ((List.mem_cons.mp h).resolve_left ?_)
    rintro rfl
    simp [halpha] at hends
  | case5 x held y rest opened _ hgoes ih =>
    refine ih ((List.mem_cons.mp h).resolve_left ?_)
    rintro rfl
    simp [hparameter, hbracket] at hgoes
  | case6 x held rest opened _ _ ih =>
    exact List.mem_append_right _ (ih ((List.mem_cons.mp h).resolve_left hescape))
  | case7 x held y rest opened _ _ _ ih =>
    refine List.mem_append_right _ ?_
    rcases List.mem_cons.mp h with rfl | h
    · exact List.mem_cons_self
    · exact List.mem_cons_of_mem _ (ih h)

theorem not_printable_of_message {takes : Char → Bool} {findings : List Finding} {f : Finding}
    {c : Char} (hf : f ∈ findings) (hc : c ∈ f.message.toList) (hplain : isInSequence c = false)
    (htakes : takes c = false) : ¬ Printable takes (render false findings) := by
  intro h
  have hmem : c ∈ (plainText f.text).toList := by
    rw [plainText, String.toList_ofList]
    exact mem_dropSequences hplain (by simp [Finding.text, hc]) []
  cases htakes.symm.trans (h f.text (List.mem_map_of_mem hf) c hmem)

theorem map_plainText_eq {lines : List String}
    (h : ∀ line ∈ lines, escapeCharacter ∉ line.toList) : lines.map plainText = lines := by
  rw [List.map_congr_left fun line hline => plainText_eq_self (h line hline), List.map_id']

theorem render_json_plain (findings : List Finding) :
    ∀ line ∈ render true findings, Data.Json.Plain line.toList := by
  intro line hline
  have heq : line = Data.Json.write .indented (.list (findings.map Finding.toValue)) ++ "\n" :=
    List.mem_singleton.mp hline
  rw [heq, String.toList_append]
  exact .append (Data.Json.write_plain Data.Json.Layout.indented_plain _)
    (.cons (by decide) .nil)

theorem printable_of_plain {takes : Char → Bool} (htakes : ∀ c, c.toNat < 128 → takes c = true)
    {lines : List String} (h : ∀ line ∈ lines, Data.Json.Plain line.toList) :
    Printable takes lines := by
  intro line hline c hc
  have hplain := h line hline
  rw [plainText_eq_self fun hescape => (hplain _ hescape).2 rfl] at hc
  exact htakes c (hplain c hc).1

/-- The parser is let go on the way out, whether the files can be checked or not. -/
theorem checkAndClose_run (parser : Server.Parser) (closable : Bool)
    (registry : Vocabulary.Registry) (files : List (Path × List UInt8)) (root : Option Path) :
    (checkAndClose parser closable registry files).run.run (.made root) =
      (checkFiles parser registry files, ⟨root, if closable then 1 else 0⟩) := by
  unfold checkAndClose
  cases checkFiles parser registry files <;> cases closable <;> rfl

section Run

variable {w : Surroundings} {parser : Settings → Server.Parser} {args : List String}
  {closable : Bool} {takes : Char → Bool} {o : CheckOptions} {settings : Settings}
  {files : List (Path × List Char)}
  (hargs : Invocation.ofArguments? w.isFile args = some (.check o))
  (hload : w.load o.root o.config = .ok settings) (hpaths : o.paths = files.map Prod.fst)
  (hread : ∀ file ∈ files, w.readFile file.1 = .ok (file.2.flatMap String.utf8EncodeChar))

include hargs hload hpaths hread

omit hargs hload in
theorem map_readFile_eq :
    (o.paths.map fun p => (p, (w.readFile p).toOption.getD [])) = files.map stored := by
  rw [hpaths, List.map_map]
  apply List.map_congr_left
  intro file hfile
  simp only [Function.comp, hread file hfile]
  rfl

theorem run_check_error {e : CheckError}
    (h : checkFiles (parser settings) (Server.registryOf settings) (files.map stored) =
      .error e) :
    run w parser args closable takes =
      { Outcome.crashed (.check e) with parser := some ⟨o.root, if closable then 1 else 0⟩ } := by
  simp only [run, hargs, runCheck, hload, map_readFile_eq hpaths hread, checkAndClose_run, h]

theorem run_check_ok {findings : List Finding}
    (h : checkFiles (parser settings) (Server.registryOf settings) (files.map stored) =
      .ok findings) :
    run w parser args closable takes =
      { Outcome.ofLines takes (exitCode findings) (render o.json findings) with
        parser := some ⟨o.root, if closable then 1 else 0⟩ } := by
  simp only [run, hargs, runCheck, hload, map_readFile_eq hpaths hread, checkAndClose_run, h]

theorem run_check_overlong
    (h : ∃ file ∈ files, HasOverlong (parser settings) (contextOf settings file.2)) :
    run w parser args closable takes =
      { Outcome.crashed (.check .tooManyDigits) with
        parser := some ⟨o.root, if closable then 1 else 0⟩ } := by
  obtain ⟨file, hfile, hlong⟩ := h
  rcases checkFiles_cases (parser settings) settings files with ⟨herror, _⟩ | ⟨_, hall⟩
  · exact run_check_error hargs hload hpaths hread herror
  · exact absurd hlong (hall file hfile)

theorem run_check_reports
    (h : ¬ ∃ file ∈ files, HasOverlong (parser settings) (contextOf settings file.2)) :
    ∃ report : List Char → Report,
      (∀ file ∈ files, validate (parseWith (parser settings)) (contextOf settings file.2) =
        .ok (report file.2)) ∧
      ((∃ f ∈ findingsIn files report, f.severity = .error) ↔
        ∃ file ∈ files, HasError (parseWith (parser settings)) (contextOf settings file.2)) ∧
      run w parser args closable takes =
        { Outcome.ofLines takes (exitCode (findingsIn files report))
            (render o.json (findingsIn files report)) with
          parser := some ⟨o.root, if closable then 1 else 0⟩ } := by
  rcases checkFiles_cases (parser settings) settings files with ⟨_, hlong⟩ | ⟨hok, hall⟩
  · exact absurd hlong h
  · refine ⟨reportOn (parser settings) settings,
      fun file hfile => validate_reportOn (hall file hfile), ?_, ?_⟩
    · rw [exists_error_findings_iff]
      exact exists_congr fun file => and_congr_right fun hfile =>
        exists_error_validate_iff (validate_reportOn (hall file hfile))
    · exact run_check_ok hargs hload hpaths hread hok

/-- The end of checking files that can be read, with settings that are accepted. -/
theorem run_check_exact :
    let parse := parseWith (parser settings)
    let outcome := run w parser args closable takes
    outcome.parser = some ⟨o.root, if closable then 1 else 0⟩ ∧
    ((∃ file ∈ files, HasOverlong (parser settings) (contextOf settings file.2)) →
      outcome.crash = some (.check .tooManyDigits) ∧ outcome.exit = 1 ∧ outcome.stdout = "") ∧
    ((¬ ∃ file ∈ files, HasOverlong (parser settings) (contextOf settings file.2)) →
      ∃ report : List Char → Report,
        (∀ file ∈ files, validate parse (contextOf settings file.2) = .ok (report file.2)) ∧
        let lines := render o.json (findingsIn files report)
        (Printable takes lines →
          outcome.crash = none ∧ outcome.stdout = String.join (lines.map plainText) ∧
          (outcome.exit = 1 ∧ (∃ file ∈ files, HasError parse (contextOf settings file.2)) ∨
            outcome.exit = 0 ∧ ¬ ∃ file ∈ files, HasError parse (contextOf settings file.2))) ∧
        (¬ Printable takes lines →
          outcome.crash = some .unprintable ∧ outcome.exit = 1 ∧
          outcome.stdout = String.join
            ((lines.map plainText).takeWhile fun line => line.toList.all takes)) ∧
        ((∀ line ∈ lines, escapeCharacter ∉ line.toList) → lines.map plainText = lines) ∧
        (o.json = true →
          (∀ line ∈ lines, escapeCharacter ∉ line.toList) ∧
          ((∀ c, c.toNat < 128 → takes c = true) → Printable takes lines))) ∧
    ((∀ body, ∃ message, parser settings body = .error (.unavailable message)) →
      ∀ file ∈ files, ¬ HasOverlong (parser settings) (contextOf settings file.2) ∧
        ¬ HasError parse (contextOf settings file.2)) := by
  intro parse outcome
  refine ⟨?_, ?_, ?_, fun h file _ => not_hasError_of_unavailable h _⟩
  · by_cases h : ∃ file ∈ files, HasOverlong (parser settings) (contextOf settings file.2)
    · have hrun : outcome = _ := run_check_overlong hargs hload hpaths hread h
      rw [hrun]
    · obtain ⟨_, _, _, hrun⟩ := run_check_reports hargs hload hpaths hread h
      have hrun : outcome = _ := hrun
      rw [hrun]
  · intro hlong
    have hrun : outcome = _ := run_check_overlong hargs hload hpaths hread hlong
    rw [hrun]
    exact ⟨rfl, rfl, rfl⟩
  · intro hshort
    obtain ⟨report, hreport, herror, hrun⟩ :=
      run_check_reports hargs hload hpaths hread hshort
    refine ⟨report, hreport, ?_⟩
    intro lines
    have houtcome : outcome =
      { Outcome.ofLines takes (exitCode (findingsIn files report)) lines with
        parser := some ⟨o.root, if closable then 1 else 0⟩ } := hrun
    refine ⟨?_, ?_, map_plainText_eq, ?_⟩
    · intro hprintable
      rw [ofLines_printable _ hprintable] at houtcome
      rw [← herror, houtcome]
      exact ⟨rfl, rfl, exitCode_cases _⟩
    · intro hunprintable
      rw [ofLines_unprintable _ hunprintable] at houtcome
      rw [houtcome]
      exact ⟨rfl, rfl, rfl⟩
    · intro hjson
      have hplain : ∀ line ∈ lines, Data.Json.Plain line.toList := by
        simp only [lines, hjson]
        exact render_json_plain _
      exact ⟨fun line hline hc => (hplain line hline _ hc).2 rfl,
        fun htakes => printable_of_plain htakes hplain⟩

end Run

/-- A directory with one file and no configuration. -/
def oneFile (name content : String) : Surroundings where
  readFile p := if p = Path.ofString name then .ok (Utf8.encode content) else .error .missing
  environment := ⟨"", "", ""⟩
  homes := ⟨"/home/me".toList, fun _ => none⟩

/-- Without a parser there is nothing to find fault with. -/
theorem run_check_exact_unavailable :
    let outcome := run (oneFile "a.js" "s(\"bd\")") (fun _ _ => .error (.unavailable "gone"))
      ["check", "--json", "a.js"]
    outcome.crash = none ∧ outcome.exit = 0 ∧ outcome.parser = some ⟨none, 1⟩ := by
  intro outcome
  let o : CheckOptions := ⟨[Path.ofString "a.js"], none, none, true⟩
  let files : List (Path × List Char) := [(Path.ofString "a.js", "s(\"bd\")".toList)]
  let w := oneFile "a.js" "s(\"bd\")"
  obtain ⟨settings, hload⟩ : ∃ settings, w.load o.root o.config = .ok settings := ⟨_, rfl⟩
  have hargs : Invocation.ofArguments? w.isFile ["check", "--json", "a.js"] = some (.check o) := by
    decide +kernel
  have hread : ∀ file ∈ files,
      w.readFile file.1 = .ok (file.2.flatMap String.utf8EncodeChar) := by
    decide +kernel
  obtain ⟨hparser, _, hrun, hnothing⟩ :=
    @run_check_exact w (fun _ _ => .error (.unavailable "gone")) _ true (fun _ => true) o settings
      files hargs hload rfl hread
  have hnone := hnothing fun _ => ⟨"gone", rfl⟩
  obtain ⟨report, _, hprinted, _, _, hjson⟩ := hrun fun ⟨file, hfile, hlong⟩ =>
    (hnone file hfile).1 hlong
  obtain ⟨hcrash, _, ⟨_, file, hfile, herror⟩ | ⟨hexit, _⟩⟩ :=
    hprinted ((hjson rfl).2 fun _ _ => rfl)
  · exact absurd herror (hnone file hfile).2
  · exact ⟨hcrash, hexit, hparser⟩

theorem overlong_line {digits : List Char} (hdigits : ∀ c ∈ digits, isDecimalDigit c = true)
    (hlong : Number.digitLimit < digits.length) :
    Notation.Overlong (.ofMessage (String.ofList ("line ".toList ++ digits))) := by
  have hne : digits ≠ [] := List.ne_nil_of_length_pos (by omega)
  have hnamed := Notation.findLineColumn?_digits hne hdigits
  rw [← String.toList_ofList (l := "line ".toList ++ digits)] at hnamed
  exact .line rfl hnamed hlong

theorem mem_unknownSample_message (registry : Vocabulary.Registry) {word : String}
    (start stop : Nat) {c : Char} (hc : c ∈ word.toList) :
    c ∈ (Remark.unknownSample registry word start stop).message.toList := by
  unfold Remark.unknownSample
  simp only
  split <;> simp [hc]

/-- An unknown atom cannot be printed with a character that the output does not take. -/
theorem not_printable_of_leaf {takes : Char → Bool} {parser : Server.Parser} {settings : Settings}
    {files : List (Path × List Char)} {report : List Char → Report} {file : Path × List Char}
    {l : Literal} {leaves : List Notation.Leaf} {leaf : Notation.Leaf} {c : Char}
    (hfile : file ∈ files)
    (hreport : validate (parseWith parser) (contextOf settings file.2) = .ok (report file.2))
    (hl : l ∈ (contextOf settings file.2).checkedLiterals)
    (hleaves : parser (Notation.quoteBody l.body) = .ok leaves) (hleaf : leaf ∈ leaves)
    (hatom : leaf.kind = "atom")
    (hknown : isKnownAtom (Server.registryOf settings) leaf.text = false)
    (hc : c ∈ leaf.text.toList) (hplain : isInSequence c = false) (htakes : takes c = false) :
    ¬ Printable takes (render false (findingsIn files report)) := by
  have hparse : parseWith parser l.body = .ok (.success leaves) := by
    rw [parseWith, hleaves]
    rfl
  have hremark := List.mem_filterMap.mpr
    ⟨leaf, hleaf, (leafRemark?_eq_some_iff (l := l)).mpr ⟨hatom, hknown, rfl⟩⟩
  have hdiagnostic := diagnostic_mem_validate hreport hl hparse hremark
  have hfinding := List.mem_map_of_mem
    (f := Finding.ofDiagnostic file.1 (report file.2)) hdiagnostic
  have hmessage := mem_unknownSample_message (Server.registryOf settings)
    (remapSpan l leaf.span).1 (remapSpan l leaf.span).2 hc
  exact not_printable_of_message (List.mem_flatMap.mpr ⟨file, hfile, hfinding⟩) hmessage hplain
    htakes

/-- A parser complains about a line whose number has too many digits. -/
theorem run_check_long_line_number {digits : List Char}
    (hdigits : ∀ c ∈ digits, isDecimalDigit c = true)
    (hmany : Number.digitLimit < digits.length) :
    let message := String.ofList ("line ".toList ++ digits)
    run (oneFile "a.js" "s(\"bd\")")
        (fun _ _ => .error (.syntaxError (.ofMessage message))) ["check", "a.js"] =
      { Outcome.crashed (.check .tooManyDigits) with parser := some ⟨none, 1⟩ } := by
  intro message
  let w := oneFile "a.js" "s(\"bd\")"
  let o : CheckOptions := ⟨[Path.ofString "a.js"], none, none, false⟩
  let text : List Char := "s(\"bd\")".toList
  let files : List (Path × List Char) := [(Path.ofString "a.js", text)]
  let l : Literal := ⟨"bd".toList, 3, '"'⟩
  let parser : Server.Parser := fun _ => .error (.syntaxError (.ofMessage message))
  obtain ⟨settings, hload, hskips⟩ : ∃ settings, w.load o.root o.config = .ok settings ∧
      (contextOf settings text).skips l = false := ⟨_, rfl, by decide +kernel⟩
  have hargs : Invocation.ofArguments? w.isFile ["check", "a.js"] = some (.check o) := by
    decide +kernel
  have hread : ∀ file ∈ files,
      w.readFile file.1 = .ok (file.2.flatMap String.utf8EncodeChar) := by
    decide +kernel
  have hl : l ∈ literals (unifyLineEnds text) := by decide +kernel
  have hlong : HasOverlong parser (contextOf settings text) :=
    ⟨l, hl, hskips, .ofMessage message, rfl, overlong_line hdigits hmany⟩
  exact @run_check_overlong w (fun _ => parser) _ true (fun _ => true) o settings files hargs
    hload rfl hread ⟨_, List.mem_cons_self, hlong⟩

/-- A parser finds no error but an unknown word, which an output of ASCII does not take. -/
theorem run_check_ascii_output :
    let outcome := run (oneFile "a.js" "s(\"bé\")")
      (fun _ _ => .ok [⟨"atom", "bé", ⟨1, 3⟩⟩]) ["check", "a.js"] true fun c => c.toNat < 128
    outcome.crash = some .unprintable ∧ outcome.exit = 1 ∧ outcome.parser = some ⟨none, 1⟩ := by
  intro outcome
  let w := oneFile "a.js" "s(\"bé\")"
  let o : CheckOptions := ⟨[Path.ofString "a.js"], none, none, false⟩
  let text : List Char := "s(\"bé\")".toList
  let files : List (Path × List Char) := [(Path.ofString "a.js", text)]
  let l : Literal := ⟨"bé".toList, 3, '"'⟩
  let leaf : Notation.Leaf := ⟨"atom", "bé", ⟨1, 3⟩⟩
  let parser : Server.Parser := fun _ => .ok [leaf]
  obtain ⟨settings, hload, hskips, hknown⟩ :
      ∃ settings, w.load o.root o.config = .ok settings ∧
        (contextOf settings text).skips l = false ∧
        isKnownAtom (Server.registryOf settings) leaf.text = false :=
    ⟨_, rfl, by decide +kernel, by decide +kernel⟩
  have hargs : Invocation.ofArguments? w.isFile ["check", "a.js"] = some (.check o) := by
    decide +kernel
  have hread : ∀ file ∈ files,
      w.readFile file.1 = .ok (file.2.flatMap String.utf8EncodeChar) := by
    decide +kernel
  have hl : l ∈ literals (unifyLineEnds text) := by decide +kernel
  have hshort : ¬ ∃ file ∈ files, HasOverlong parser (contextOf settings file.2) := by
    rintro ⟨file, _, l, _, _, report, hreport, _⟩
    cases hreport
  obtain ⟨report, hreport, _, hrun⟩ :=
    @run_check_reports w (fun _ => parser) _ true (fun c => c.toNat < 128) o settings files hargs
      hload rfl hread hshort
  have hchecked := (contextOf settings text).mem_checkedLiterals.mpr ⟨hl, hskips⟩
  have hbad : ¬ Printable (fun c => c.toNat < 128) (render false (findingsIn files report)) :=
    not_printable_of_leaf (c := 'é') List.mem_cons_self (hreport _ List.mem_cons_self) hchecked
      rfl List.mem_cons_self rfl hknown (by decide +kernel) (by decide) (by decide)
  have houtcome : outcome = _ := hrun
  rw [houtcome, ofLines_unprintable _ hbad]
  exact ⟨rfl, rfl, rfl⟩

/-- A run breaks off at a number with too many digits and at a character that the output does not
take. The parser is let go all the same. -/
theorem run_check_breaks_off :
    (∀ digits : List Char, (∀ c ∈ digits, isDecimalDigit c = true) →
      Number.digitLimit < digits.length →
      let message := String.ofList ("line ".toList ++ digits)
      let outcome := run (oneFile "a.js" "s(\"bd\")")
        (fun _ _ => .error (.syntaxError (.ofMessage message))) ["check", "a.js"]
      outcome.crash = some (.check .tooManyDigits) ∧ outcome.exit = 1 ∧ outcome.stdout = "" ∧
        outcome.parser = some ⟨none, 1⟩) ∧
    let outcome := run (oneFile "a.js" "s(\"bé\")")
      (fun _ _ => .ok [⟨"atom", "bé", ⟨1, 3⟩⟩]) ["check", "a.js"] true fun c => c.toNat < 128
    outcome.crash = some .unprintable ∧ outcome.exit = 1 ∧ outcome.parser = some ⟨none, 1⟩ := by
  refine ⟨?_, run_check_ascii_output⟩
  intro digits hdigits hmany message outcome
  have houtcome : outcome = _ := run_check_long_line_number hdigits hmany
  rw [houtcome]
  exact ⟨rfl, rfl, rfl, rfl⟩

end Command

end PatternServer
