import PatternServer.Text.Lower
import PatternServer.Vocabulary.Catalog

/-!
# Suggestions for unknown words

The edit distance of two words, and the up to three names of a vocabulary that are nearest to a
word. A name that differs from the word in letter case only has distance zero and is not suggested.
-/

namespace PatternServer.Vocabulary

set_option autoImplicit false

open PatternServer.Text

/-- The next row of the distance table: `above` is the row before from the current column on,
`corner` its entry one column back, and `left` the new entry there. -/
def nextRow (a : Char) : (b : List Char) → (corner left : Nat) → (above : List Nat) → List Nat
  | b :: bs, corner, left, up :: above =>
    let entry := if a = b then corner else min (min corner left) up + 1
    entry :: nextRow a bs up entry above
  | _, _, _, _ => []

/-- Runs through the rows of the distance table. `row` holds the distances of the part of `a` read
so far to the prefixes of `b`. -/
def distanceRows (b : List Char) : (a : List Char) → (row : List Nat) → List Nat
  | [], row => row
  | c :: a, row =>
    match row with
    | [] => []
    | first :: above => distanceRows b a ((first + 1) :: nextRow c b first (first + 1) above)

/-- The least number of single-character insertions, deletions and substitutions between two
words. -/
def editDistance (a b : List Char) : Nat :=
  (distanceRows b a (List.range (b.length + 1))).getLastD 0

/-- How many names are suggested at most. -/
def maxSuggestions : Nat := 3

/-- How far a suggested name may be from the word. -/
def defaultDistance : Int := 2

/-- The names of a vocabulary that are near enough to a word in lower case, with their distances,
the nearest first and equally near ones in the order of the vocabulary. -/
def nearest (lowered : List Char) (vocabulary : List String) (maxDistance : Int) :
    List (Nat × String) :=
  let scored := vocabulary.map fun name => (editDistance lowered (lower name.toList), name)
  let close := scored.filter fun s => 0 < s.1 && (s.1 : Int) ≤ maxDistance
  close.mergeSort fun s t => s.1 ≤ t.1

/-- What to offer in place of a word: its correction if there is one, else the nearest names. -/
def suggestWith (corrections : List (String × String)) (maxDistance : Int) (word : String)
    (vocabulary : List String) : List String :=
  let lowered := lowerName word
  match corrections.find? fun c => c.1 == lowered with
  | some c => [c.2]
  | none => ((nearest lowered.toList vocabulary maxDistance).take maxSuggestions).map (·.2)

/-- What to offer in place of a word, by the fixed corrections and the usual distance. -/
def suggest (word : String) (vocabulary : List String) : List String :=
  suggestWith Catalog.corrections defaultDistance word vocabulary

end PatternServer.Vocabulary
