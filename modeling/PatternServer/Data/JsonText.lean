import PatternServer.Data.Value

/-!
# Writing JSON

Values as JSON in ASCII, either on one line or with one item to a line and two blanks of indent for
each container around it. An empty container is written in one piece.
-/

namespace PatternServer.Data.Json

set_option autoImplicit false

open PatternServer.Number PatternServer.Text

def escapeUnit (n : Nat) : List Char :=
  '\\' :: 'u' :: hexDigits 4 n

/-- A character inside a string: all but printable ASCII is escaped, outside the first plane as a
surrogate pair. -/
def escapeChar (c : Char) : List Char :=
  if c = '"' ∨ c = '\\' then ['\\', c]
  else if c = '\n' then ['\\', 'n']
  else if c = '\r' then ['\\', 'r']
  else if c = '\t' then ['\\', 't']
  else if c.toNat = 8 then ['\\', 'b']
  else if c.toNat = 12 then ['\\', 'f']
  else if 0x20 ≤ c.toNat ∧ c.toNat < 0x7F then [c]
  else if c.toNat < 0x10000 then escapeUnit c.toNat
  else
    let n := c.toNat - 0x10000
    escapeUnit (0xD800 + n / 0x400) ++ escapeUnit (0xDC00 + n % 0x400)

def stringChars (s : String) : List Char :=
  '"' :: s.toList.flatMap escapeChar ++ ['"']

/-- The text of a number; the values that are not finite have names. -/
def realChars : Double → List Char
  | .nan => "NaN".toList
  | .infinite negative => (if negative then "-Infinity" else "Infinity").toList
  | d => d.chars

/-- Where the items of a container are put. -/
structure Layout where
  /-- What stands before an item at a depth. -/
  lead : Nat → List Char
  /-- What stands between two items, besides what leads the second. -/
  comma : List Char

def Layout.line : Layout := ⟨fun _ => [], [',', ' ']⟩

def Layout.indented : Layout :=
  ⟨fun depth => '\n' :: List.replicate (2 * depth) ' ', [',']⟩

def container (layout : Layout) (depth : Nat) (opening closing : Char)
    (parts : List (List Char)) : List Char :=
  if parts.isEmpty then [opening, closing]
  else
    opening ::
      ((parts.map (layout.lead (depth + 1) ++ ·)).intersperse layout.comma).flatten ++
      layout.lead depth ++ [closing]

mutual

def valueChars (layout : Layout) (depth : Nat) : Value → List Char
  | .null => "null".toList
  | .bool b => (if b then "true" else "false").toList
  | .int n => intChars n
  | .real d => realChars d
  | .text s => stringChars s
  | .moment m => stringChars (String.ofList m.chars)
  | .list items => container layout depth '[' ']' (itemChars layout (depth + 1) items)
  | .table fields => container layout depth '\x7b' '\x7d' (fieldChars layout (depth + 1) fields)

def itemChars (layout : Layout) (depth : Nat) : List Value → List (List Char)
  | [] => []
  | v :: rest => valueChars layout depth v :: itemChars layout depth rest

def fieldChars (layout : Layout) (depth : Nat) : List (String × Value) → List (List Char)
  | [] => []
  | (k, v) :: rest =>
    (stringChars k ++ ':' :: ' ' :: valueChars layout depth v) :: fieldChars layout depth rest

end

def write (layout : Layout) (v : Value) : String :=
  String.ofList (valueChars layout 0 v)

end PatternServer.Data.Json
