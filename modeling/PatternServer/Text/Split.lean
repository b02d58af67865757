/-!
# Cutting a text at a character
-/

namespace PatternServer.Text

set_option autoImplicit false

/-- The pieces between the places where `sep` stands; there is always one more than such places. -/
def splitOn (sep : Char) : List Char → List (List Char)
  | [] => [[]]
  | c :: rest =>
    if c = sep then [] :: splitOn sep rest
    else
      match splitOn sep rest with
      | [] => [[c]]
      | first :: more => (c :: first) :: more

def joinWith (sep : List Char) (pieces : List (List Char)) : List Char :=
  (pieces.intersperse sep).flatten

/-- The text before the first place where `sep` stands, and the text behind that place. Without such
a place the second text is empty. -/
def cutAt (sep : Char) (s : List Char) : List Char × List Char :=
  (s.takeWhile (· ≠ sep), (s.dropWhile (· ≠ sep)).drop 1)

end PatternServer.Text
