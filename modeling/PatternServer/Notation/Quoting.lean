/-!
# The quoted form of a literal

A parser of the pattern notation is given a literal in double quotes, with the backslashes and
double quotes of the body escaped. Everything that it reports is measured in that form.
-/

namespace PatternServer.Notation

set_option autoImplicit false

def quoteChar (c : Char) : List Char :=
  if c = '\\' ∨ c = '"' then ['\\', c] else [c]

/-- A body with its backslashes and double quotes escaped. -/
def escapeBody (body : List Char) : List Char :=
  body.flatMap quoteChar

/-- The text that a parser is given for a body. -/
def quoteBody (body : List Char) : List Char :=
  '"' :: escapeBody body ++ ['"']

end PatternServer.Notation
