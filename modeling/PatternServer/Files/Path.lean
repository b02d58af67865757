import PatternServer.Text.Split

/-!
# Paths

A path is the slashes it begins with and the names between its slashes. Empty names and single
points are left out, so that every path has one text; two points are kept, since what they mean
depends on the files. Two slashes in front are kept apart from one, more than two count as one.
-/

namespace PatternServer.Files

set_option autoImplicit false

open PatternServer.Text

structure Path where
  /-- How many slashes stand in front: none, one or two. -/
  slashes : Nat
  names : List (List Char)
deriving Repr, DecidableEq, Inhabited

namespace Path

/-- The names that count among the pieces between slashes. -/
def isName (piece : List Char) : Bool :=
  !piece.isEmpty && piece != ['.']

def ofChars (s : List Char) : Path :=
  let lead := (s.takeWhile (· == '/')).length
  ⟨if lead ≤ 2 then lead else 1, (splitOn '/' s).filter isName⟩

def ofString (s : String) : Path := ofChars s.toList

/-- The text of a path; the path without slashes and names is a point. -/
def chars (p : Path) : List Char :=
  match List.replicate p.slashes '/' ++ joinWith ['/'] p.names with
  | [] => ['.']
  | s => s

def toText (p : Path) : String := String.ofList p.chars

/-- The directory one is in. -/
def here : Path := ⟨0, []⟩

def isAbsolute (p : Path) : Bool := 0 < p.slashes

/-- A path seen from a directory. -/
def join (directory p : Path) : Path :=
  if p.isAbsolute then p else { directory with names := directory.names ++ p.names }

end Path

/-- Where home directories are found, as the texts that name them. -/
structure Homes where
  /-- The home directory of whoever runs the program. -/
  own : List Char
  /-- The home directory of a user with a name. -/
  user? : List Char → Option (List Char)

inductive HomeError where
  /-- The user is not known, or the home directory is again named by a tilde. -/
  | noHome
  | nullInName
deriving Repr, DecidableEq, Inhabited

namespace Homes

/-- The text that names the home directory of a user; without a name it is one's own. -/
def find (homes : Homes) (user : List Char) : Except HomeError (List Char) :=
  if user.isEmpty then .ok homes.own
  else if user.contains (Char.ofNat 0) then .error .nullInName
  else
    match homes.user? user with
    | some home => .ok home
    | none => .error .noHome

/-- The path of a home directory. Slashes at its end do not count, and nothing but slashes is the
root. -/
def pathOf (home : List Char) : Except HomeError Path :=
  match (home.reverse.dropWhile (· == '/')).reverse with
  | [] => .ok (Path.ofChars ['/'])
  | '~' :: _ => .error .noHome
  | text => .ok (Path.ofChars text)

end Homes

/-- A path with its leading tilde, or tilde and user name, replaced by the home directory. -/
def Path.expandHome (homes : Homes) (p : Path) : Except HomeError Path :=
  match p.slashes, p.names with
  | 0, ('~' :: user) :: rest => do
    let home ← Homes.pathOf (← homes.find user)
    return { home with names := home.names ++ rest }
  | _, _ => .ok p

end PatternServer.Files
