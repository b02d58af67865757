import PatternServer.Data.Json

/-!
# Reading records from values

How the fields of a record are taken from a value that came from elsewhere. The reading is lenient:
a whole number may also come as a number without a fraction, as a truth value or as text, and a
truth value as a number or as one of a few words.
-/

namespace PatternServer.Data

set_option autoImplicit false

open PatternServer.Number PatternServer.Text

/-- What is left of the digits of a number behind the zeros at its front, among which underscores do
not count; `last` is the character read before. At a point the last of them stays, and so it does
where nothing follows. -/
def afterZeros? (last : Char) : List Char → Option (List Char)
  | [] => some [last]
  | c :: rest =>
    if c = '0' ∨ c = '_' then afterZeros? c rest
    else if c.isDigit || c == '-' then some (c :: rest)
    else if c = '.' then some (last :: c :: rest)
    else none

def dropZeros? : List Char → Option (List Char)
  | '0' :: rest => afterZeros? '0' rest
  | c :: rest => if c.isDigit then some (c :: rest) else none
  | [] => none

/-- A fraction of zeros, of which there is at least one, taken off. -/
def dropZeroFraction (s : List Char) : List Char :=
  let zeros := (s.dropWhile (· ≠ '.')).drop 1
  if !zeros.isEmpty && zeros.all (· == '0') then s.takeWhile (· ≠ '.') else s

def hasDoubleUnderscore (s : List Char) : Bool :=
  (s.zip s.tail).any (· == ('_', '_'))

/-- Single underscores taken out, unless there is one at either end. -/
def dropUnderscores (s : List Char) : List Char :=
  if s.head? == some '_' || s.getLast? == some '_' || hasDoubleUnderscore s then s
  else s.filter (· != '_')

/-- A number in the tidy form: without white space around it, plus sign, zeros at the front,
fraction of zeros, and underscores. -/
def tidyNumber? (s : List Char) : Option (List Char) :=
  let s := trimNumber s
  let stripped : Option (List Char) :=
    match s with
    | '+' :: rest => dropZeros? rest
    | '-' :: rest => (dropZeros? rest).map ('-' :: ·)
    | _ => dropZeros? s
  stripped.map fun s => dropUnderscores (dropZeroFraction s)

/-- A whole number without anything around it; the limit on its length counts the sign. -/
def readPlainInt? (s : List Char) : Option Int :=
  let signed : Bool × List Char :=
    match s with
    | '-' :: rest => (true, rest)
    | _ => (false, s)
  let digits := signed.2
  if digits.isEmpty || !digits.all Char.isDigit || digitLimit < s.length ||
      (digits.head? == some '0' && digits.length != 1) then none
  else
    let size : Int := decimalValue digits
    some (if signed.1 then -size else size)

def readIntText? (s : List Char) : Option Int :=
  (tidyNumber? s).bind readPlainInt?

/-- The whole numbers that a double may stand for. -/
def realInt? (d : Double) : Option Int :=
  d.toInt?.bind fun n => if -9223372036854775808 < n ∧ n < 9223372036854775808 then some n else none

namespace Value

def asInt? : Value → Option Int
  | .int n => some n
  | .real d => realInt? d
  | .bool b => some (if b then 1 else 0)
  | .text s => readIntText? s.toList
  | _ => none

def intBool? (n : Int) : Option Bool :=
  if n = 0 then some false else if n = 1 then some true else none

def asBool? : Value → Option Bool
  | .bool b => some b
  | .int n => intBool? n
  | .real d => (realInt? d).bind intBool?
  | .text s =>
    let word := String.ofList (s.toList.map Char.toLower)
    if ["0", "off", "f", "false", "n", "no"].contains word then some false
    else if ["1", "on", "t", "true", "y", "yes"].contains word then some true
    else none
  | _ => none

def asText? : Value → Option String
  | .text s => some s
  | _ => none

def asList? : Value → Option (List Value)
  | .list items => some items
  | _ => none

def asTable? : Value → Option (List (String × Value))
  | .table fields => some fields
  | _ => none

/-- Every item read by `f`, or nothing. -/
def each? {α : Type} (f : Value → Option α) : List Value → Option (List α)
  | [] => some []
  | v :: rest => (f v).bind fun a => (each? f rest).map (a :: ·)

def asListOf? {α : Type} (f : Value → Option α) (v : Value) : Option (List α) :=
  v.asList?.bind (each? f)

/-- A field that may be missing: what it is then, and how it is read otherwise. -/
def field? {α : Type} (fields : List (String × Value)) (key : String) (missing : Option α)
    (read : Value → Option α) : Option α :=
  match lookup key fields with
  | none => missing
  | some v => read v

/-- A reading that takes null for nothing. -/
def orNull? {α : Type} (read : Value → Option α) : Value → Option (Option α)
  | .null => some none
  | v => (read v).map some

end Value

end PatternServer.Data
