import PatternServer.Text.Lower
import PatternServer.Vocabulary.Catalog

/-!
# The registry of known names

What the diagnostics and the editor features recognise: the fixed names, and the samples, banks and
synthesizer sounds that the engine has reported last. Names that differ in letter case only are one
name, and the spelling that comes first is kept.
-/

namespace PatternServer.Vocabulary

set_option autoImplicit false

open PatternServer.Text

/-- Whether `seen` holds a name that is equal to `name` but for letter case. -/
def knows (seen : List String) (name : String) : Bool :=
  seen.any fun s => lowerName s == lowerName name

theorem knows_eq_true_iff {names : List String} {word : String} :
    knows names word = true ↔ ∃ name ∈ names, lowerName name = lowerName word := by
  simp [knows]

/-- The names of a list after those whose lower-case forms are in `seen`, without the empty ones and
without repetitions. -/
def dedupeFrom (seen : List String) : List String → List String
  | [] => []
  | name :: rest =>
    let form := lowerName name
    if name.isEmpty || seen.contains form then dedupeFrom seen rest
    else name :: dedupeFrom (form :: seen) rest

/-- A list of names without the empty ones; of names that differ in letter case only the first is
kept. -/
def dedupe (names : List String) : List String :=
  dedupeFrom [] names

/-- The names known at one moment. -/
structure Registry where
  defaultSamples : List String
  defaultBanks : List String
  functions : List HostFunction
  nonSampleFunctions : List String
  dynamicSamples : List String
  dynamicBanks : List String
  sounds : List String
deriving Repr, DecidableEq, Inhabited

namespace Registry

/-- A registry before the engine has reported anything. -/
def ofNames (samples banks : List String) (functions : List HostFunction)
    (nonSample : List String) : Registry :=
  { defaultSamples := dedupe samples
    defaultBanks := dedupe banks
    functions := functions
    nonSampleFunctions := Catalog.nonSampleFunctions ++ nonSample
    dynamicSamples := []
    dynamicBanks := []
    sounds := [] }

def standard : Registry :=
  ofNames Catalog.sampleNames Catalog.bankNames Catalog.functions []

def replaceSamples (r : Registry) (names : List String) : Registry :=
  { r with dynamicSamples := dedupe names }

def replaceBanks (r : Registry) (names : List String) : Registry :=
  { r with dynamicBanks := dedupe names }

def replaceSounds (r : Registry) (names : List String) : Registry :=
  { r with sounds := dedupe names }

/-- Every sample: the fixed ones first, then those of the engine, then its sounds. -/
def samples (r : Registry) : List String :=
  dedupe (r.defaultSamples ++ r.dynamicSamples ++ r.sounds)

/-- The banks of the engine, or the fixed ones while it has none. -/
def banks (r : Registry) : List String :=
  if r.dynamicBanks.isEmpty then r.defaultBanks else r.dynamicBanks

def functionNames (r : Registry) : List String :=
  r.functions.map (·.name)

/-- The function of a name; of several the last. -/
def function? (r : Registry) (name : String) : Option HostFunction :=
  r.functions.reverse.find? fun f => f.name == name

def isFunction (r : Registry) (name : String) : Bool :=
  r.functions.any fun f => f.name == name

def isSample (r : Registry) (word : String) : Bool :=
  knows r.samples word

def isBank (r : Registry) (word : String) : Bool :=
  knows r.banks word

def isNonSampleFunction (r : Registry) (name : String) : Bool :=
  r.nonSampleFunctions.contains name

end Registry

def isScale (word : String) : Bool :=
  knows Catalog.scaleNames word

def isVoicingMode (word : String) : Bool :=
  Catalog.voicingModes.contains (lowerName word)

end PatternServer.Vocabulary
