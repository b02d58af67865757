import PatternServer.Data.Moment
import PatternServer.Text.Quoted

/-!
# Values

The values that configuration files and messages carry, in one type: what the two formats share,
the null value of messages, and the dates and times of configuration files. The entries of a table
stand in the order in which their keys were first written.
-/

namespace PatternServer.Data

set_option autoImplicit false

open PatternServer.Number PatternServer.Text

inductive Value where
  | null
  | bool (b : Bool)
  | int (n : Int)
  | real (d : Double)
  | text (s : String)
  | moment (m : Moment)
  | list (items : List Value)
  | table (fields : List (String × Value))
deriving Inhabited

/-- The room that readers usually have for values inside each other. -/
def usualRoom : Nat := 985

namespace Value

def lookup (key : String) (fields : List (String × Value)) : Option Value :=
  (fields.find? fun f => f.1 == key).map (·.2)

/-- The value under a key; anything but a table has none. -/
def get? (v : Value) (key : String) : Option Value :=
  match v with
  | .table fields => lookup key fields
  | _ => none

/-- The entries after one is written: a key that is already there keeps its place. -/
def insert (key : String) (value : Value) : List (String × Value) → List (String × Value)
  | [] => [(key, value)]
  | f :: rest => if f.1 = key then (key, value) :: rest else f :: insert key value rest

/-- Whether a value counts as given: null, false, zero and the empty ones do not. -/
def isGiven : Value → Bool
  | .null => false
  | .bool b => b
  | .int n => n ≠ 0
  | .real d => !d.isZero
  | .text s => !s.isEmpty
  | .moment _ => true
  | .list items => !items.isEmpty
  | .table fields => !fields.isEmpty

def commaSeparated (parts : List (List Char)) : List Char :=
  (parts.intersperse [',', ' ']).flatten

mutual

/-- The form in which a value is shown inside other values. There is none for a value that holds a
whole number beyond the digit limit. -/
def quotedChars? : Value → Option (List Char)
  | .null => some "None".toList
  | .bool b => some (if b then "True" else "False").toList
  | .int n => intChars? n
  | .real d => some d.chars
  | .text s => some (quoted s.toList)
  | .moment m => some m.constructorChars
  | .list items => (quotedItems? items).map fun parts => '[' :: commaSeparated parts ++ [']']
  | .table fields =>
    (quotedFields? fields).map fun parts => '\x7b' :: commaSeparated parts ++ ['\x7d']

def quotedItems? : List Value → Option (List (List Char))
  | [] => some []
  | v :: rest =>
    (quotedChars? v).bind fun first => (quotedItems? rest).map (first :: ·)

def quotedFields? : List (String × Value) → Option (List (List Char))
  | [] => some []
  | (k, v) :: rest =>
    (quotedChars? v).bind fun shown =>
      (quotedFields? rest).map ((quoted k.toList ++ ':' :: ' ' :: shown) :: ·)

end

/-- The form in which a value is shown by itself: texts, dates and times plainly. -/
def displayChars? : Value → Option (List Char)
  | .text s => some s.toList
  | .moment m => some m.chars
  | v => quotedChars? v

def quoted? (v : Value) : Option String :=
  (quotedChars? v).map String.ofList

def display? (v : Value) : Option String :=
  (displayChars? v).map String.ofList

end Value

end PatternServer.Data
