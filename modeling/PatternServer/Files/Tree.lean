import PatternServer.Files.Path
import PatternServer.Text.Quoted

/-!
# Files

What paths lead to: a tree of places below the working directory and one below the root of all
files. A place lies at the names that lead to it. A directory is there when it is listed or when
anything lies below it.
-/

namespace PatternServer.Files

set_option autoImplicit false

open PatternServer.Text

inductive FileError where
  | missing
  | isDirectory
  /-- A name stands behind a file. -/
  | notDirectory
  | nameTooLong
  /-- A name holds the character that ends names. -/
  | nullInName
deriving Repr, DecidableEq, Inhabited

/-- The system's words for what happened at a path, if the system was asked at all. -/
def FileError.report? (e : FileError) (p : Path) : Option String :=
  let words : Option String :=
    match e with
    | .missing => some "[Errno 2] No such file or directory"
    | .isDirectory => some "[Errno 21] Is a directory"
    | .notDirectory => some "[Errno 20] Not a directory"
    | .nameTooLong => some "[Errno 36] File name too long"
    | .nullInName => none
  words.map fun s => s ++ ": " ++ String.ofList (quoted p.chars)

inductive Entry where
  | file (content : List UInt8)
  | directory
deriving Repr, DecidableEq, Inhabited

/-- The places below a directory, each with the names that lead to it. -/
structure Tree where
  places : List (List (List Char) × Entry)
  /-- Whether the directory is the root of all files, which is its own parent. -/
  isRoot : Bool
deriving Repr, DecidableEq, Inhabited

def nameLimit : Nat := 255

def pathLimit : Nat := 4095

def byteCount (s : List Char) : Nat := (String.ofList s).utf8ByteSize

namespace Tree

def at? (t : Tree) (names : List (List Char)) : Option Entry :=
  match t.places.find? fun place => place.1 == names with
  | some place => some place.2
  | none =>
    if names.isEmpty || t.places.any fun place => names.isPrefixOf place.1 then some .directory
    else none

/-- What lies behind the parent of a tree, of which only the directories on the way up are known. -/
def above (names : List (List Char)) : Except FileError Entry :=
  match names.dropWhile (· == ['.', '.']) with
  | [] => .ok .directory
  | name :: _ => .error (if nameLimit < byteCount name then .nameTooLong else .missing)

/-- Walks along names from a directory of the tree, which lies `back` behind its top. Two points
lead to the parent. Nothing lies below a file. -/
def walk (t : Tree) : (back : List (List Char)) → List (List Char) → Except FileError Entry
  | back, [] =>
    match t.at? back.reverse with
    | some entry => .ok entry
    | none => .error .missing
  | back, name :: rest =>
    match t.at? back.reverse with
    | none => .error .missing
    | some (.file _) => .error .notDirectory
    | some .directory =>
      if name = ['.', '.'] then
        match back with
        | [] => if t.isRoot then t.walk [] rest else above rest
        | _ :: up => t.walk up rest
      else if nameLimit < byteCount name then .error .nameTooLong
      else t.walk (name :: back) rest

end Tree

/-- All files that a program may come across. -/
structure Disk where
  /-- What lies below the working directory. -/
  here : Tree
  /-- What lies below the root of all files. -/
  root : Tree
deriving Repr, DecidableEq, Inhabited

namespace Disk

def find (d : Disk) (p : Path) : Except FileError Entry :=
  if p.names.any fun name => name.contains (Char.ofNat 0) then .error .nullInName
  else if pathLimit < byteCount p.chars then .error .nameTooLong
  else if p.isAbsolute then d.root.walk [] p.names
  else d.here.walk [] p.names

def read (d : Disk) (p : Path) : Except FileError (List UInt8) :=
  match d.find p with
  | .ok (.file content) => .ok content
  | .ok .directory => .error .isDirectory
  | .error e => .error e

end Disk

end PatternServer.Files
