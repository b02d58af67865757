import PatternServer.Text.Utf8

/-!
# Code points

A text is a list of characters. Half of a surrogate pair has a code point but is no character, so
that no text holds it: where it may be written, it is read as the replacement character.
-/

namespace PatternServer.Text

set_option autoImplicit false

/-- The code points that are halves of surrogate pairs. -/
def isSurrogate (n : Nat) : Bool := 0xD800 ≤ n && n < 0xE000

def ofCodePoint (n : Nat) : Char :=
  if isSurrogate n then Utf8.replacement else Char.ofNat n

end PatternServer.Text
