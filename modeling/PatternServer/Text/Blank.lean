/-!
# White space

The characters that trimming, splitting into words and the blank test of a literal treat as white
space. A table of code point ranges is read by `CharRange.contains`, which the other character
classes share.
-/

namespace PatternServer.Text

set_option autoImplicit false

/-- Whether the code point of `c` lies in one of the closed ranges. -/
def CharRange.contains (ranges : List (Nat × Nat)) (c : Char) : Bool :=
  ranges.any fun r => r.1 ≤ c.toNat && c.toNat ≤ r.2

def blankRanges : List (Nat × Nat) :=
  [(0x9, 0xD), (0x1C, 0x20), (0x85, 0x85), (0xA0, 0xA0), (0x1680, 0x1680), (0x2000, 0x200A),
   (0x2028, 0x2029), (0x202F, 0x202F), (0x205F, 0x205F), (0x3000, 0x3000)]

/-- White space, the four information separators and the next-line control included. -/
def isBlank (c : Char) : Bool :=
  CharRange.contains blankRanges c

def trimLeft (s : List Char) : List Char :=
  s.dropWhile isBlank

def trimRight (s : List Char) : List Char :=
  (s.reverse.dropWhile isBlank).reverse

def trim (s : List Char) : List Char :=
  trimRight (trimLeft s)

def isAllBlank (s : List Char) : Bool :=
  s.all isBlank

/-- The maximal runs of characters that are not white space. -/
def words (s : List Char) : List (List Char) :=
  s.splitOnP isBlank |>.filter fun w => !w.isEmpty

end PatternServer.Text
