/-!
# Control sequences

A terminal takes an escape character, an opening bracket, parameters and a letter for an order and
not for text. What is not written to a terminal is written without such sequences.
-/

namespace PatternServer.Text

set_option autoImplicit false

def escapeCharacter : Char := Char.ofNat 27

/-- The characters between the bracket of a control sequence and its letter. -/
def isParameter (c : Char) : Bool :=
  c.isDigit || c == ';' || c == '?'

/-- Leaves out control sequences. `held` is what has been read of a possible sequence, its last
character first. -/
def dropSequences : (held : List Char) → List Char → List Char
  | held, [] => held.reverse
  | [], c :: rest =>
    if c = escapeCharacter then dropSequences [c] rest else c :: dropSequences [] rest
  | h :: held, c :: rest =>
    let opened := !held.isEmpty
    if opened && c.isAlpha then dropSequences [] rest
    else if (opened && isParameter c) || (!opened && c == '[') then
      dropSequences (c :: h :: held) rest
    else if c = escapeCharacter then (h :: held).reverse ++ dropSequences [c] rest
    else (h :: held).reverse ++ c :: dropSequences [] rest

def plainText (s : String) : String :=
  String.ofList (dropSequences [] s.toList)

end PatternServer.Text
