import PatternServer.Number.Shortest
import PatternServer.Text.Printable

/-!
# Quoted text

The form in which a message shows a text as a value: inside quotes, with the quote, the backslash,
line breaks, tabs and every character that cannot be printed escaped. Single quotes are used unless
the text holds one and no double quote.
-/

namespace PatternServer.Text

set_option autoImplicit false

/-- The digits of a code point in base sixteen, padded with zeros. -/
def hexDigits (width n : Nat) : List Char :=
  Number.padZeros width (Nat.toDigits 16 n)

/-- The quote that a quoted text uses. -/
def quoteFor (s : List Char) : Char :=
  if s.contains '\'' && !s.contains '"' then '"' else '\''

def quoteChar (q c : Char) : List Char :=
  if c = q ∨ c = '\\' then ['\\', c]
  else if c = '\n' then ['\\', 'n']
  else if c = '\r' then ['\\', 'r']
  else if c = '\t' then ['\\', 't']
  else if isPrintable c then [c]
  else if c.toNat < 0x100 then '\\' :: 'x' :: hexDigits 2 c.toNat
  else if c.toNat < 0x10000 then '\\' :: 'u' :: hexDigits 4 c.toNat
  else '\\' :: 'U' :: hexDigits 8 c.toNat

def quoted (s : List Char) : List Char :=
  let q := quoteFor s
  q :: s.flatMap (quoteChar q) ++ [q]

end PatternServer.Text
