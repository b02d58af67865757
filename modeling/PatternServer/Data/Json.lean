import PatternServer.Data.Value
import PatternServer.Number.Reading
import PatternServer.Text.CodePoint

/-!
# Reading JSON

One reader for the two places where JSON arrives. Messages of the sound engine are read in the
`loose` dialect and everything that has to fit a record in the `strict` one: the dialects differ in
what they do with half a surrogate pair and in how deep values may nest and how long numbers may be.
Both take the names of the numbers that are not finite, and in both the last of several equal keys
counts.
-/

namespace PatternServer.Data

set_option autoImplicit false

open PatternServer.Number PatternServer.Text

inductive JsonError where
  | malformed
  | tooManyDigits
  | tooDeep
deriving Repr, DecidableEq, Inhabited

structure JsonDialect where
  /-- Whether half a surrogate pair may be written. -/
  loneSurrogates : Bool
  /-- How many containers that are not empty may stand inside each other. -/
  nesting : Nat
  /-- Whether the limit on the digits of a whole number counts its sign and holds for the whole part
  of any other number too. -/
  limitsWholeParts : Bool
deriving Repr, DecidableEq

namespace Json

def loose (nesting : Nat := usualRoom) : JsonDialect := ⟨true, nesting, false⟩

def strict : JsonDialect := ⟨false, 200, true⟩

def isSpace (c : Char) : Bool :=
  c == ' ' || c == '\t' || c == '\n' || c == '\r'

def skipSpace (s : List Char) : List Char :=
  s.dropWhile isSpace

def hexValue? (c : Char) : Option Nat :=
  if '0' ≤ c ∧ c ≤ '9' then some (c.toNat - '0'.toNat)
  else if 'a' ≤ c ∧ c ≤ 'f' then some (c.toNat - 'a'.toNat + 10)
  else if 'A' ≤ c ∧ c ≤ 'F' then some (c.toNat - 'A'.toNat + 10)
  else none

def hexNumber? (ds : List Char) : Option Nat :=
  ds.foldl (fun n c => n.bind fun n => (hexValue? c).map (16 * n + ·)) (some 0)

/-- The character that a one-letter escape stands for. -/
def escaped? (c : Char) : Option Char :=
  match c with
  | '"' => some '"'
  | '\\' => some '\\'
  | '/' => some '/'
  | 'b' => some (Char.ofNat 8)
  | 'f' => some (Char.ofNat 12)
  | 'n' => some '\n'
  | 'r' => some '\r'
  | 't' => some '\t'
  | _ => none

/-- The code units of a string up to its closing quote, and the rest. -/
def stringUnits : List Char → Option (List Nat × List Char)
  | [] => none
  | '"' :: rest => some ([], rest)
  | '\\' :: 'u' :: a :: b :: c :: d :: rest =>
    (hexNumber? [a, b, c, d]).bind fun n =>
      (stringUnits rest).map fun r => (n :: r.1, r.2)
  | '\\' :: e :: rest =>
    (escaped? e).bind fun c => (stringUnits rest).map fun r => (c.toNat :: r.1, r.2)
  | c :: rest =>
    if c = '\\' ∨ c.toNat < 0x20 then none
    else (stringUnits rest).map fun r => (c.toNat :: r.1, r.2)

def isHighSurrogate (n : Nat) : Bool := 0xD800 ≤ n && n < 0xDC00

def isLowSurrogate (n : Nat) : Bool := 0xDC00 ≤ n && n < 0xE000

/-- Code units as characters: a surrogate pair is one character. -/
def joinUnits (dialect : JsonDialect) : List Nat → Option (List Char)
  | [] => some []
  | [n] => single n []
  | n :: m :: rest =>
    if isHighSurrogate n && isLowSurrogate m then
      (joinUnits dialect rest).map
        (Char.ofNat (0x10000 + (n - 0xD800) * 0x400 + (m - 0xDC00)) :: ·)
    else
      (joinUnits dialect (m :: rest)).bind (single n)
where
  single (n : Nat) (rest : List Char) : Option (List Char) :=
    if isSurrogate n && !dialect.loneSurrogates then none else some (ofCodePoint n :: rest)

def readString (dialect : JsonDialect) (s : List Char) :
    Except JsonError (String × List Char) :=
  match (stringUnits s).bind fun r => (joinUnits dialect r.1).map fun cs => (cs, r.2) with
  | some (cs, rest) => .ok (String.ofList cs, rest)
  | none => .error .malformed

/-- A fraction with at least one digit, if there is one: its digits and the rest. -/
def takeFraction (s : List Char) : List Char × List Char :=
  match s with
  | '.' :: rest =>
    match rest.takeWhile Char.isDigit with
    | [] => ([], s)
    | ds => (ds, rest.dropWhile Char.isDigit)
  | _ => ([], s)

/-- An exponent with at least one digit, if there is one: its value and the rest. -/
def takeExponent (s : List Char) : Option Int × List Char :=
  match s with
  | c :: rest =>
    if c = 'e' ∨ c = 'E' then
      let signed := takeSign rest
      match signed.2.takeWhile Char.isDigit with
      | [] => (none, s)
      | ds =>
        let size : Int := decimalValue ds
        (some (if signed.1 then -size else size), signed.2.dropWhile Char.isDigit)
    else (none, s)
  | [] => (none, s)

/-- Whether a number is too long: `digits` are those of its whole part. -/
def isTooLong (dialect : JsonDialect) (negative isWhole : Bool) (digits : List Char) : Bool :=
  if dialect.limitsWholeParts then digitLimit < digits.length + (if negative then 1 else 0)
  else isWhole && digitLimit < digits.length

/-- A number without its sign: a whole number has neither fraction nor exponent. -/
def readNumber (dialect : JsonDialect) (negative : Bool) (s : List Char) :
    Except JsonError (Value × List Char) :=
  let whole : List Char × List Char :=
    match s with
    | '0' :: rest => (['0'], rest)
    | _ => (s.takeWhile Char.isDigit, s.dropWhile Char.isDigit)
  if whole.1.isEmpty then .error .malformed
  else
    let fraction := takeFraction whole.2
    let exponent := takeExponent fraction.2
    let isWhole := fraction.1.isEmpty && exponent.1.isNone
    if isTooLong dialect negative isWhole whole.1 then .error .tooManyDigits
    else if isWhole then
      let size : Int := decimalValue whole.1
      .ok (.int (if negative then -size else size), exponent.2)
    else
      let digits := whole.1 ++ fraction.1
      let power := exponent.1.getD 0 - fraction.1.length
      .ok (.real (Double.ofDecimal negative (decimalValue digits) power), exponent.2)

def after? (word : String) (s : List Char) : Option (List Char) :=
  if word.toList.isPrefixOf s then some (s.drop word.length) else none

/-- The names that are values, and what they mean. -/
def names : List (String × Value) :=
  [("null", .null), ("true", .bool true), ("false", .bool false), ("NaN", .real .nan),
   ("Infinity", .real (.infinite false)), ("-Infinity", .real (.infinite true))]

def readName? (s : List Char) : Option (Value × List Char) :=
  names.findSome? fun n => (after? n.1 s).map fun rest => (n.2, rest)

def deeper : Nat → Except JsonError Nat
  | 0 => .error .tooDeep
  | n + 1 => .ok n

mutual

/-- A value at the front of `s`, and the rest. Every call uses up fuel, of which twice the length
of the text is always enough. -/
def readValue (dialect : JsonDialect) :
    (fuel : Nat) → (nesting : Nat) → List Char → Except JsonError (Value × List Char)
  | 0, _, _ => .error .malformed
  | fuel + 1, nesting, s =>
    match s with
    | '"' :: rest => (readString dialect rest).map fun r => (.text r.1, r.2)
    | '[' :: rest =>
      match skipSpace rest with
      | ']' :: rest => .ok (.list [], rest)
      | rest => do
        let inner ← deeper nesting
        let r ← readItems dialect fuel inner rest
        return (.list r.1, r.2)
    | '\x7b' :: rest =>
      match skipSpace rest with
      | '\x7d' :: rest => .ok (.table [], rest)
      | rest => do
        let inner ← deeper nesting
        let r ← readFields dialect fuel inner [] rest
        return (.table r.1, r.2)
    | _ =>
      match readName? s with
      | some r => .ok r
      | none =>
        match s with
        | '-' :: rest => readNumber dialect true rest
        | _ => readNumber dialect false s

def readItems (dialect : JsonDialect) :
    (fuel : Nat) → (nesting : Nat) → List Char → Except JsonError (List Value × List Char)
  | 0, _, _ => .error .malformed
  | fuel + 1, nesting, s => do
    let item ← readValue dialect fuel nesting (skipSpace s)
    match skipSpace item.2 with
    | ',' :: rest => do
      let r ← readItems dialect fuel nesting rest
      return (item.1 :: r.1, r.2)
    | ']' :: rest => return ([item.1], rest)
    | _ => .error .malformed

/-- The entries of a table up to its closing brace, after those already read. -/
def readFields (dialect : JsonDialect) :
    (fuel : Nat) → (nesting : Nat) → List (String × Value) → List Char →
      Except JsonError (List (String × Value) × List Char)
  | 0, _, _, _ => .error .malformed
  | fuel + 1, nesting, fields, s =>
    match skipSpace s with
    | '"' :: rest => do
      let key ← readString dialect rest
      match skipSpace key.2 with
      | ':' :: rest => do
        let value ← readValue dialect fuel nesting (skipSpace rest)
        let fields := Value.insert key.1 value.1 fields
        match skipSpace value.2 with
        | ',' :: rest => readFields dialect fuel nesting fields rest
        | '\x7d' :: rest => return (fields, rest)
        | _ => .error .malformed
      | _ => .error .malformed
    | _ => .error .malformed

end

def read (dialect : JsonDialect) (s : List Char) : Except JsonError Value := do
  let r ← readValue dialect (2 * s.length + 2) dialect.nesting (skipSpace s)
  if (skipSpace r.2).isEmpty then return r.1 else .error .malformed

end Json

end PatternServer.Data
