import PatternServer.Vocabulary.Functions.Abbreviations
import PatternServer.Vocabulary.Functions.Effects
import PatternServer.Vocabulary.Functions.Essentials
import PatternServer.Vocabulary.Functions.Numbers
import PatternServer.Vocabulary.Functions.Patterns
import PatternServer.Vocabulary.Functions.Sequences
import PatternServer.Vocabulary.Functions.Sound
import PatternServer.Vocabulary.Functions.Steps
import PatternServer.Vocabulary.Functions.Wavetables

/-!
# The fixed vocabulary

The names that are known without a running sound engine, the operators of the pattern notation, and
the corrections that are offered for common slips.
-/

namespace PatternServer.Vocabulary.Catalog

set_option autoImplicit false

/-- Drums, synthesizers and instruments that are always there. -/
def sampleNames : List String :=
  ["bd", "sd", "hh", "oh", "cp", "mt", "ht", "lt", "rim", "cb", "cr", "rd",
   "sh", "tb", "perc", "misc", "fx", "piano",
   "sine", "saw", "square", "triangle", "sawtooth", "tri", "white", "pink", "brown",
   "casio", "jazz", "metal", "east", "space", "wind", "insect", "crow",
   "numbers", "mridangam",
   "violin", "viola", "cello", "bass", "flute", "oboe", "clarinet", "bassoon",
   "trumpet", "horn", "trombone", "tuba", "glockenspiel", "xylophone", "vibraphone"]

/-- The drum machines that are known while the engine names none. -/
def bankNames : List String :=
  ["RolandTR808", "RolandTR909", "RolandTR707"]

def noteNames : List String :=
  ["c", "d", "e", "f", "g", "a", "b", "cs", "ds", "fs", "gs", "as", "db", "eb", "gb", "ab", "bb"]

def octaves : List String :=
  ["0", "1", "2", "3", "4", "5", "6", "7", "8"]

def scaleNames : List String :=
  ["major", "minor", "dorian", "phrygian", "lydian", "mixolydian", "locrian", "aeolian", "ionian",
   "harmonicMinor", "melodicMinor", "pentatonic", "blues", "chromatic", "wholetone", "diminished",
   "augmented", "bebop", "hungarian", "spanish"]

/-- How a chord is voiced around an anchor note. -/
def voicingModes : List String :=
  ["above", "below", "between", "duck", "root", "rootless"]

/-- Atoms that stand for structure and not for a sound. -/
def structuralAtoms : List String :=
  ["x", "t", "f", "r", "-", "_"]

/-- Functions whose literal holds names of banks, scales or voicings. -/
def nonSampleFunctions : List String :=
  ["bank", "scale", "mode", "voicing", "chord", "struct", "mask"]

/-- Methods of the host language that are no pattern functions. -/
def hostMethods : List String :=
  ["then", "catch", "map", "filter", "forEach", "reduce", "log", "error", "warn"]

/-- What is meant by some common slips. -/
def corrections : List (String × String) :=
  [("db", "bd"), ("ds", "sd"), ("kick", "bd"), ("snare", "sd"), ("hihat", "hh"), ("openhat", "oh"),
   ("clap", "cp"), ("cowbell", "cb"), ("crash", "cr"), ("ride", "rd"), ("cf", "c"), ("ef", "e"),
   ("bf", "b"), ("sounds", "sound"), ("notes", "note"), ("filters", "lpf"), ("lowpass", "lpf"),
   ("highpass", "hpf"), ("bandpass", "bpf"), ("reverb", "room"), ("echo", "delay"),
   ("volume", "gain"), ("reverse", "rev")]

structure Operator where
  label : String
  detail : String
  documentation : String
deriving Repr, DecidableEq, Inhabited

def operators : List Operator :=
  [⟨"*", "Speed up (fast)", "Multiply speed: bd*2 plays twice as fast"⟩,
   ⟨"/", "Slow down", "Divide speed: bd/2 plays twice as slow"⟩,
   ⟨"!", "Replicate", "Repeat element: bd!3 plays bd three times"⟩,
   ⟨"?", "Degrade/maybe", "Random chance: bd? sometimes plays"⟩,
   ⟨"@", "Weight", "Set duration weight: bd@2 takes twice as long"⟩,
   ⟨"~", "Rest/silence", "Silent step"⟩,
   ⟨"<>", "Alternate", "Alternate between patterns each cycle"⟩,
   ⟨"[]", "Subsequence", "Group elements into subsequence"⟩,
   ⟨"\x7b\x7d", "Polyrhythm", "Play patterns in parallel with different lengths"⟩,
   ⟨"(,)", "Euclidean rhythm", "Euclidean distribution: bd(3,8) = 3 hits over 8 steps"⟩,
   ⟨":", "Sample index", "Select sample variant: bd:2"⟩,
   ⟨",", "Parallel", "Play patterns in parallel: bd, hh"⟩,
   ⟨"|", "Random choice", "Random choice: bd | sd"⟩]

/-- Every function of the host language that the editor knows. -/
def functions : List HostFunction :=
  Functions.essentials ++ Functions.patterns ++ Functions.sound ++ Functions.wavetables ++
    Functions.effects ++ Functions.steps ++ Functions.abbreviations ++ Functions.numbers ++
    Functions.sequences

end PatternServer.Vocabulary.Catalog
