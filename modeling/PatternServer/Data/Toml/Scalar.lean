import PatternServer.Data.Json
import PatternServer.Data.Value
import PatternServer.Number.Reading

/-!
# Simple values of a configuration file

Strings in their four forms, dates and times, and numbers. Every reader takes the front of a text
and gives the value with the rest. What is read is always the longest front that has the form; what
is left over is for the caller to refuse.
-/

namespace PatternServer.Data

set_option autoImplicit false

open PatternServer.Number

inductive TomlError where
  | malformed
  | tooManyDigits
  | tooDeep
deriving Repr, DecidableEq, Inhabited

namespace Toml

/-- A result of reading; readers give a value together with the rest of the text. -/
abbrev Attempt := Except TomlError

def isSpace (c : Char) : Bool := c == ' ' || c == '\t'

def isSpaceOrNewline (c : Char) : Bool := isSpace c || c == '\n'

def skipSpace (s : List Char) : List Char := s.dropWhile isSpace

/-- A control character that a string on one line may not hold. -/
def isIllegal (c : Char) : Bool :=
  (c.toNat < 32 || c.toNat == 127) && c != '\t'

/-- The same for a string on several lines. -/
def isIllegalInLines (c : Char) : Bool :=
  isIllegal c && c != '\n'

def begins (start : String) (s : List Char) : Bool :=
  start.toList.isPrefixOf s

/-- A comment, if there is one here, passed over up to the end of its line. -/
def skipComment (s : List Char) : Attempt (List Char) :=
  match s with
  | '#' :: rest =>
    if (rest.takeWhile (· ≠ '\n')).any isIllegal then .error .malformed
    else .ok (rest.dropWhile (· ≠ '\n'))
  | _ => .ok s

/-- The text up to a delimiter, and what follows the delimiter. -/
def takeUntil? (delimiter : List Char) : List Char → Option (List Char × List Char)
  | [] => none
  | c :: rest =>
    if delimiter.isPrefixOf (c :: rest) then some ([], (c :: rest).drop delimiter.length)
    else (takeUntil? delimiter rest).map fun r => (c :: r.1, r.2)

def readLiteral (delimiter : String) (illegal : Char → Bool) (s : List Char) :
    Attempt (List Char × List Char) :=
  match takeUntil? delimiter.toList s with
  | some r => if r.1.any illegal then .error .malformed else .ok r
  | none => .error .malformed

def escaped? (c : Char) : Option Char :=
  match c with
  | 'b' => some (Char.ofNat 8)
  | 't' => some '\t'
  | 'n' => some '\n'
  | 'f' => some (Char.ofNat 12)
  | 'r' => some '\r'
  | '"' => some '"'
  | '\\' => some '\\'
  | _ => none

/-- The character of a fixed number of hexadecimal digits. -/
def readHexChar (width : Nat) (s : List Char) : Attempt (Char × List Char) :=
  let ds := s.take width
  if ds.length = width then
    match Json.hexNumber? ds with
    | some n => if n.isValidChar then .ok (Char.ofNat n, s.drop width) else .error .malformed
    | none => .error .malformed
  else .error .malformed

/-- What stands behind a backslash: nothing, where it only joins two lines, or a character. -/
def readEscape (lines : Bool) (s : List Char) : Attempt (List Char × List Char) :=
  match s with
  | [] => .error .malformed
  | c :: rest =>
    if lines && isSpaceOrNewline c then
      let rest := if c = '\n' then c :: rest else skipSpace rest
      match rest with
      | [] => .ok ([], [])
      | '\n' :: rest => .ok ([], rest.dropWhile isSpaceOrNewline)
      | _ => .error .malformed
    else if c = 'u' then (readHexChar 4 rest).map fun r => ([r.1], r.2)
    else if c = 'U' then (readHexChar 8 rest).map fun r => ([r.1], r.2)
    else
      match escaped? c with
      | some e => .ok ([e], rest)
      | none => .error .malformed

/-- A string with escapes, after its opening delimiter. The fuel is the length of the text. -/
def readBasic (lines : Bool) : (fuel : Nat) → List Char → Attempt (List Char × List Char)
  | 0, _ => .error .malformed
  | fuel + 1, s =>
    match s with
    | [] => .error .malformed
    | c :: rest =>
      if c = '"' then
        if lines then
          if begins "\"\"\"" s then .ok ([], s.drop 3)
          else (readBasic lines fuel rest).map fun r => (c :: r.1, r.2)
        else .ok ([], rest)
      else if c = '\\' then
        match readEscape lines rest with
        | .error e => .error e
        | .ok (front, rest) => (readBasic lines fuel rest).map fun r => (front ++ r.1, r.2)
      else if (if lines then isIllegalInLines c else isIllegal c) then .error .malformed
      else (readBasic lines fuel rest).map fun r => (c :: r.1, r.2)

/-- A string on one line with escapes, after its opening quote. -/
def readBasicLine (s : List Char) : Attempt (List Char × List Char) :=
  readBasic false (s.length + 1) s

/-- Up to two quotes directly behind the closing ones belong to the string. -/
def takeExtraQuotes (q : Char) (body rest : List Char) : List Char × List Char :=
  match rest with
  | a :: b :: more =>
    if a = q ∧ b = q then (body ++ [q, q], more)
    else if a = q then (body ++ [q], b :: more)
    else (body, rest)
  | [a] => if a = q then (body ++ [q], []) else (body, rest)
  | [] => (body, [])

/-- A string on several lines, after its opening quotes; a line feed directly behind them does not
count. -/
def readLines (literal : Bool) (s : List Char) : Attempt (List Char × List Char) :=
  let s :=
    match s with
    | '\n' :: rest => rest
    | _ => s
  if literal then
    (readLiteral "'''" isIllegalInLines s).map fun r => takeExtraQuotes '\'' r.1 r.2
  else
    (readBasic true (s.length + 1) s).map fun r => takeExtraQuotes '"' r.1 r.2

/-- A fixed number of digits at the front of `s`, as a number. -/
def fixedDigits? (width : Nat) (s : List Char) : Option (Nat × List Char) :=
  let ds := s.take width
  if ds.length = width && ds.all Char.isDigit then
    some (ds.foldl (fun n c => 10 * n + (c.toNat - '0'.toNat)) 0, s.drop width)
  else none

def twoDigits? (low high : Nat) (s : List Char) : Option (Nat × List Char) :=
  (fixedDigits? 2 s).filter fun r => low ≤ r.1 && r.1 ≤ high

def expect? (c : Char) (s : List Char) : Option (List Char) :=
  match s with
  | d :: rest => if d = c then some rest else none
  | [] => none

/-- A fraction of a second in millionths; further digits are cut off. -/
def takeMicroseconds (s : List Char) : Nat × List Char :=
  match s with
  | '.' :: rest =>
    match rest.takeWhile Char.isDigit with
    | [] => (0, s)
    | ds =>
      let six := (ds.take 6) ++ List.replicate (6 - ds.length) '0'
      (six.foldl (fun n c => 10 * n + (c.toNat - '0'.toNat)) 0, rest.dropWhile Char.isDigit)
  | _ => (0, s)

def readTime? (s : List Char) : Option (ClockTime × List Char) := do
  let (hour, s) ← twoDigits? 0 23 s
  let s ← expect? ':' s
  let (minute, s) ← twoDigits? 0 59 s
  let s ← expect? ':' s
  let (second, s) ← twoDigits? 0 59 s
  let (microsecond, s) := takeMicroseconds s
  return ({ hour, minute, second, microsecond }, s)

def readDay? (s : List Char) : Option (Day × List Char) := do
  let (year, s) ← fixedDigits? 4 s
  let s ← expect? '-' s
  let (month, s) ← twoDigits? 1 12 s
  let s ← expect? '-' s
  let (day, s) ← twoDigits? 1 31 s
  return ({ year, month, day }, s)

/-- A signed offset from universal time in minutes. -/
def readSignedOffset? (s : List Char) : Option (Int × List Char) := do
  let sign ← s.head?.filter fun c => c == '+' || c == '-'
  let (hours, s) ← twoDigits? 0 23 (s.drop 1)
  let s ← expect? ':' s
  let (minutes, s) ← twoDigits? 0 59 s
  let size : Int := hours * 60 + minutes
  return (if sign = '-' then -size else size, s)

def takeOffset (s : List Char) : Option Int × List Char :=
  match s with
  | c :: rest =>
    if c = 'Z' ∨ c = 'z' then (some 0, rest)
    else
      match readSignedOffset? s with
      | some (minutes, rest) => (some minutes, rest)
      | none => (none, s)
  | [] => (none, s)

/-- The time behind a day, if there is one. -/
def readTimeOfDay? (s : List Char) : Option (ClockTime × List Char) := do
  let c ← s.head?
  if c = 'T' ∨ c = 't' ∨ c = ' ' then readTime? (s.drop 1) else none

/-- A date or a time. A day that the calendar does not have is an error, not another value. -/
def readMoment? (s : List Char) : Option (Attempt (Moment × List Char)) :=
  match readDay? s with
  | some (day, rest) =>
    some <|
      if day.isValid then
        match readTimeOfDay? rest with
        | some (time, rest) =>
          let offset := takeOffset rest
          .ok (.dateTime day time offset.1, offset.2)
        | none => .ok (.day day, rest)
      else .error .malformed
  | none => (readTime? s).map fun r => .ok (.time r.1, r.2)

/-- Further digits of a base, each with at most one underscore before it. -/
def digitTail (isDigit : Char → Bool) : List Char → List Char × List Char
  | '_' :: c :: rest =>
    if isDigit c then
      let r := digitTail isDigit rest
      (c :: r.1, r.2)
    else ([], '_' :: c :: rest)
  | c :: rest =>
    if isDigit c then
      let r := digitTail isDigit rest
      (c :: r.1, r.2)
    else ([], c :: rest)
  | [] => ([], [])

/-- Digits of a base with single underscores between them. -/
def digitRun (isDigit : Char → Bool) (s : List Char) : List Char × List Char :=
  match s with
  | c :: _ => if isDigit c then digitTail isDigit s else ([], s)
  | [] => ([], [])

/-- A whole number in base two, eight or sixteen, after the zero. -/
def readPrefixed? (s : List Char) : Option (Int × List Char) :=
  match s with
  | c :: rest =>
    let base? : Option (Nat × (Char → Bool)) :=
      match c with
      | 'x' => some (16, fun d => (Json.hexValue? d).isSome)
      | 'o' => some (8, fun d => '0' ≤ d && d ≤ '7')
      | 'b' => some (2, fun d => d == '0' || d == '1')
      | _ => none
    base?.bind fun (base, isDigit) =>
      match digitRun isDigit rest with
      | ([], _) => none
      | (ds, rest) =>
        some ((ds.foldl (fun n d => base * n + (Json.hexValue? d).getD 0) 0 : Nat), rest)
  | [] => none

/-- The whole part of a decimal number: a zero, or digits that do not begin with one. -/
def wholePart (s : List Char) : List Char × List Char :=
  match s with
  | '0' :: rest => (['0'], rest)
  | _ => digitRun Char.isDigit s

/-- A point with digits behind it, if there is one. -/
def fractionPart (s : List Char) : List Char × List Char :=
  match s with
  | '.' :: rest =>
    match digitRun Char.isDigit rest with
    | ([], _) => ([], s)
    | (ds, rest) => (ds, rest)
  | _ => ([], s)

def exponentPart (s : List Char) : Option Int × List Char :=
  match s with
  | c :: rest =>
    if c = 'e' ∨ c = 'E' then
      let signed := takeSign rest
      match digitRun Char.isDigit signed.2 with
      | ([], _) => (none, s)
      | (ds, rest) =>
        let size : Int := Text.decimalValue ds
        (some (if signed.1 then -size else size), rest)
    else (none, s)
  | [] => (none, s)

def readDecimal? (s : List Char) : Option (Attempt (Value × List Char)) :=
  let signed := takeSign s
  match wholePart signed.2 with
  | ([], _) => none
  | (whole, rest) =>
    let fraction := fractionPart rest
    let exponent := exponentPart fraction.2
    some <|
      if fraction.1.isEmpty && exponent.1.isNone then
        if digitLimit < whole.length then .error .tooManyDigits
        else
          let size : Int := Text.decimalValue whole
          .ok (.int (if signed.1 then -size else size), rest)
      else
        let digits := Text.decimalValue (whole ++ fraction.1)
        let power := exponent.1.getD 0 - fraction.1.length
        .ok (.real (Double.ofDecimal signed.1 digits power), exponent.2)

def readNumber? (s : List Char) : Option (Attempt (Value × List Char)) :=
  match s with
  | '0' :: rest =>
    match readPrefixed? rest with
    | some (n, rest) => some (.ok (.int n, rest))
    | none => readDecimal? s
  | _ => readDecimal? s

def specialNames : List (String × Value) :=
  [("inf", .real (.infinite false)), ("nan", .real .nan), ("-inf", .real (.infinite true)),
   ("+inf", .real (.infinite false)), ("-nan", .real .nan), ("+nan", .real .nan)]

def truthNames : List (String × Value) :=
  [("true", .bool true), ("false", .bool false)]

def readName? (names : List (String × Value)) (s : List Char) : Option (Value × List Char) :=
  names.findSome? fun n => if begins n.1 s then some (n.2, s.drop n.1.length) else none

def readScalar (s : List Char) : Attempt (Value × List Char) :=
  let text (r : Attempt (List Char × List Char)) : Attempt (Value × List Char) :=
    r.map fun r => (.text (String.ofList r.1), r.2)
  if begins "\"\"\"" s then text (readLines false (s.drop 3))
  else if begins "\"" s then text (readBasicLine (s.drop 1))
  else if begins "'''" s then text (readLines true (s.drop 3))
  else if begins "'" s then text (readLiteral "'" isIllegal (s.drop 1))
  else
    match readName? truthNames s with
    | some r => .ok r
    | none =>
      match readMoment? s with
      | some r => r.map fun r => (.moment r.1, r.2)
      | none =>
        match readNumber? s with
        | some r => r
        | none =>
          match readName? specialNames s with
          | some r => .ok r
          | none => .error .malformed

end Toml

end PatternServer.Data
