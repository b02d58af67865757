import PatternServer.Proofs.LineFraming

/-!
# The vocabulary that the engine reports

The registry holds, for each topic, the names of the last message on it. Here this is said in terms
of the lines that a client is given, in pieces or whole: which lines are messages and what they say,
how the registry follows them one by one, and what is told of it. Names that differ in letter case
only are one name, and the empty name is none.
-/

namespace PatternServer.Engine

set_option autoImplicit false

open PatternServer.Data PatternServer.Text PatternServer.Vocabulary

/-! Names. -/

def sameName (a b : String) : Bool :=
  lowerName a == lowerName b

/-- Names without the empty ones; of several that are the same the first is kept. -/
def distinctNames (names : List String) : List String :=
  (names.filter (· ≠ "")).eraseDupsBy sameName

theorem dedupeFrom_eq (seen names : List String) :
    dedupeFrom seen names =
      (names.filter fun name => name ≠ "" && !seen.contains (lowerName name)).eraseDupsBy
        sameName := by
  induction names generalizing seen with
  | nil => rfl
  | cons name names ih =>
    have hskip : (name.isEmpty || seen.contains (lowerName name)) =
        !(decide (name ≠ "") && !seen.contains (lowerName name)) := by
      by_cases hname : name = "" <;> simp [hname]
    simp only [dedupeFrom, hskip, List.filter_cons]
    cases hkept : decide (name ≠ "") && !seen.contains (lowerName name) with
    | false => simpa using ih seen
    | true =>
      simp only [Bool.not_true, Bool.false_eq_true, if_false, if_true, List.eraseDupsBy_cons, ih,
        List.filter_filter]
      refine congrArg (fun names => name :: List.eraseDupsBy sameName names) ?_
      refine List.filter_congr fun other _ => ?_
      simp only [sameName, List.contains_cons, Bool.not_or]
      by_cases hsame : (lowerName other == lowerName name) = true <;> simp [hsame]

theorem dedupe_eq_distinctNames (names : List String) : dedupe names = distinctNames names := by
  rw [dedupe, dedupeFrom_eq, distinctNames]
  simp

/-! Messages. -/

/-- A line is a message with some names on a topic: a table whose type is the topic, and in which
the list under the name of the topic is missing, as it may if there are no names, or holds the
names. -/
def IsMessage (nesting : Nat) (line : List Char) (topic : Topic) (names : List String) : Prop :=
  ∃ fields, Json.read (Json.loose nesting) line = .ok (.table fields) ∧
    Value.lookup "type" fields = some (.text topic.name) ∧
      (Value.lookup topic.name fields = none ∧ names = [] ∨
        Value.lookup topic.name fields = some (.list (names.map .text)))

theorem ofName?_eq_some_iff {s : String} {topic : Topic} :
    Topic.ofName? s = some topic ↔ s = topic.name := by
  constructor
  · intro h
    have hfound := List.find?_some h
    exact (beq_iff_eq.mp hfound).symm
  · rintro rfl
    cases topic <;> decide

theorem each?_asText?_eq_some_iff {items : List Value} {names : List String} :
    Value.each? Value.asText? items = some names ↔ items = names.map .text := by
  induction items generalizing names with
  | nil => cases names <;> simp [Value.each?]
  | cons item items ih =>
    cases names with
    | nil => simp [Value.each?, Option.bind_eq_some_iff]
    | cons name names =>
      have hitem : item.asText? = some name ↔ item = .text name := by
        cases item <;> simp [Value.asText?]
      simp [Value.each?, Option.bind_eq_some_iff, ih, hitem]

theorem ofFields?_eq_some_iff {fields : List (String × Value)} {topic : Topic}
    {names : List String} :
    Message.ofFields? fields = some ⟨topic, names⟩ ↔
      Value.lookup "type" fields = some (.text topic.name) ∧
        (Value.lookup topic.name fields = none ∧ names = [] ∨
          Value.lookup topic.name fields = some (.list (names.map .text))) := by
  have hnames : Value.field? fields topic.name (some []) (Value.asListOf? Value.asText?) =
      some names ↔ Value.lookup topic.name fields = none ∧ names = [] ∨
        Value.lookup topic.name fields = some (.list (names.map .text)) := by
    unfold Value.field?
    cases Value.lookup topic.name fields with
    | none => simp [eq_comm]
    | some v => cases v <;> simp [Value.asListOf?, Value.asList?, each?_asText?_eq_some_iff]
  rw [← hnames]
  unfold Message.ofFields?
  cases Value.lookup "type" fields with
  | none => simp
  | some kind =>
    cases kind <;> simp [Value.asText?, Option.bind_eq_some_iff, ofName?_eq_some_iff]

theorem readValue_of_blank {dialect : JsonDialect} (fuel nesting : Nat) {c : Char}
    (rest : List Char) (h : isBlank c = true) :
    Json.readValue dialect (fuel + 1) nesting (c :: rest) = .error .malformed := by
  have hne : ∀ x, isBlank x = false → c ≠ x := by
    rintro x hx rfl
    cases hx.symm.trans h
  have hname : Json.readName? (c :: rest) = none := by
    have hfirst : ∀ x word, isBlank x = false → (x :: word).isPrefixOf (c :: rest) = false := by
      intro x word hx
      simp [List.isPrefixOf, Ne.symm (hne x hx)]
    simp only [Json.readName?, Json.names, List.findSome?_eq_none_iff, List.mem_cons]
    rintro _ (rfl | rfl | rfl | rfl | rfl | rfl | ⟨⟨⟩⟩)
    all_goals
      rw [Json.after?, if_neg (by rw [Bool.not_eq_true]; exact hfirst _ _ (by decide))]
      rfl
  have hdigit : c.isDigit = false := by
    rw [Bool.eq_false_iff]
    intro hdigit
    obtain ⟨hzero, hnine⟩ : 48 ≤ c.toNat ∧ c.toNat ≤ 57 := Char.isDigit_iff_toNat.mp hdigit
    simp only [isBlank, CharRange.contains, blankRanges, List.any_cons, List.any_nil,
      Bool.or_eq_true, Bool.and_eq_true, decide_eq_true_eq, Bool.false_eq_true, or_false] at h
    omega
  have hnumber : Json.readNumber dialect false (c :: rest) = .error .malformed := by
    unfold Json.readNumber
    split
    · exact absurd (List.cons.inj ‹_›).1 (hne _ (by decide))
    · simp [hdigit]
  unfold Json.readValue
  split
  · exact absurd (List.cons.inj ‹_›).1 (hne _ (by decide))
  · exact absurd (List.cons.inj ‹_›).1 (hne _ (by decide))
  · exact absurd (List.cons.inj ‹_›).1 (hne _ (by decide))
  · rw [hname]
    simp only
    split
    · exact absurd (List.cons.inj ‹_›).1 (hne _ (by decide))
    · exact hnumber

/-- Nothing can be read from white space. -/
theorem read_of_isAllBlank {dialect : JsonDialect} {line : List Char}
    (h : isAllBlank line = true) : Json.read dialect line = .error .malformed := by
  have hvalue : Json.readValue dialect (2 * line.length + 2) dialect.nesting
      (Json.skipSpace line) = .error .malformed := by
    cases hrest : Json.skipSpace line with
    | nil => rfl
    | cons c rest =>
      have hmem : c ∈ line := (List.dropWhile_suffix _).subset (hrest ▸ List.mem_cons_self)
      exact readValue_of_blank _ _ rest (List.all_eq_true.mp h c hmem)
  simp [Json.read, hvalue, bind, Except.bind]

theorem ofLine?_eq_some_iff {nesting : Nat} {line : List Char} {topic : Topic}
    {names : List String} :
    Message.ofLine? nesting line = .ok (some ⟨topic, names⟩) ↔
      IsMessage nesting line topic names := by
  unfold Message.ofLine? IsMessage
  split
  · rename_i hblank
    simp [read_of_isAllBlank hblank]
  · cases Json.read (Json.loose nesting) line with
    | error e => cases e <;> simp
    | ok v => cases v <;> simp [ofFields?_eq_some_iff]

theorem ofLine?_of_not_isMessage {nesting : Nat} {line : List Char}
    (h : ∀ topic names, ¬ IsMessage nesting line topic names) :
    (∃ e, Message.ofLine? nesting line = .error e) ∨ Message.ofLine? nesting line = .ok none := by
  rcases hread : Message.ofLine? nesting line with e | _ | ⟨topic, names⟩
  · exact Or.inl ⟨e, rfl⟩
  · exact Or.inr rfl
  · exact absurd (ofLine?_eq_some_iff.mp hread) (h topic names)

theorem IsMessage.unique {nesting : Nat} {line : List Char} {topic topic' : Topic}
    {names names' : List String}
    (h : IsMessage nesting line topic names) (h' : IsMessage nesting line topic' names') :
    topic = topic' ∧ names = names' := by
  rw [← ofLine?_eq_some_iff] at h h'
  simpa using h.symm.trans h'

/-! The registry follows the lines. -/

/-- The names that the engine has reported on a topic. -/
def reported (r : Registry) : Topic → List String
  | .samples => r.dynamicSamples
  | .banks => r.dynamicBanks
  | .sounds => r.sounds

/-- What the engine has no part in. -/
def fixedPart (r : Registry) :
    List String × List String × List HostFunction × List String :=
  (r.defaultSamples, r.defaultBanks, r.functions, r.nonSampleFunctions)

theorem registry_ext {r r' : Registry} (hreported : ∀ topic, reported r topic = reported r' topic)
    (hfixed : fixedPart r = fixedPart r') : r = r' := by
  have hsamples := hreported .samples
  have hbanks := hreported .banks
  have hsounds := hreported .sounds
  cases r
  cases r'
  simp_all [reported, fixedPart]

theorem apply_reported (m : Message) (r : Registry) (topic : Topic) :
    reported (m.apply r) topic =
      if m.topic = topic then distinctNames m.names else reported r topic := by
  obtain ⟨t, names⟩ := m
  rw [← dedupe_eq_distinctNames]
  cases t <;> cases topic <;> rfl

theorem apply_fixedPart (m : Message) (r : Registry) : fixedPart (m.apply r) = fixedPart r := by
  obtain ⟨t, names⟩ := m
  cases t <;> rfl

/-- A registry follows lines: it goes from `r` to `r'`, by way of the registries `told`, one for
each message. A message replaces the names of its topic and nothing else; other lines mean
nothing. -/
inductive Follows (nesting : Nat) :
    Registry → List (List Char) → List Registry → Registry → Prop where
  | nil {r : Registry} : Follows nesting r [] [] r
  | other {r r' : Registry} {line : List Char} {lines : List (List Char)} {told : List Registry}
      (hline : ∀ topic names, ¬ IsMessage nesting line topic names)
      (hrest : Follows nesting r lines told r') :
      Follows nesting r (line :: lines) told r'
  | message {r r₁ r' : Registry} {line : List Char} {lines : List (List Char)}
      {told : List Registry} {topic : Topic} {names : List String}
      (hline : IsMessage nesting line topic names)
      (hreported : reported r₁ topic = distinctNames names)
      (hothers : ∀ t, t ≠ topic → reported r₁ t = reported r t)
      (hfixed : fixedPart r₁ = fixedPart r) (hrest : Follows nesting r₁ lines told r') :
      Follows nesting r (line :: lines) (r₁ :: told) r'

namespace Follows

variable {nesting : Nat} {r r' : Registry} {lines : List (List Char)} {told : List Registry}

end Follows

/-- The names that messages among lines report on a topic, a list for each message. -/
def reports (nesting : Nat) (topic : Topic) (lines : List (List Char)) : List (List String) :=
  ((messages nesting lines).filter (·.topic = topic)).map (·.names)

theorem registryAfter_reported (r : Registry) (ms : List Message) (topic : Topic) :
    reported (registryAfter r ms) topic =
      ((ms.filter (·.topic = topic)).map (·.names)).foldl (fun _ names => distinctNames names)
        (reported r topic) := by
  induction ms generalizing r with
  | nil => rfl
  | cons m ms ih =>
    rw [registryAfter_cons, ih, apply_reported, List.filter_cons]
    by_cases hm : m.topic = topic <;> simp [hm]

/-- Something that a client is given: text that goes on with what it has, or a line by itself. -/
inductive Delivery where
  | text (t : List Char)
  | line (l : List Char)
deriving Repr, DecidableEq, Inhabited

namespace Client

def deliver (hear : Listener) (c : Client) : Delivery → Client × Option FeedError
  | .text t => c.feed hear t
  | .line l => c.handleLine hear l

/-- A line that is no message leaves a client as it is. -/
theorem handleLine_of_not_isMessage (hear : Listener) (c : Client) {line : List Char}
    (h : ∀ topic names, ¬ IsMessage c.nesting line topic names) :
    (c.handleLine hear line).1 = c := by
  unfold handleLine
  rcases ofLine?_of_not_isMessage h with ⟨e, hread⟩ | hread <;> rw [hread]

end Client

end PatternServer.Engine
