import PatternServer.Number.Shortest
import PatternServer.Text.Blank
import PatternServer.Text.Digit

/-!
# Reading numbers from text

A number in a setting may be written as text: white space around it, a sign, digits of any script
with single underscores between them, a fraction, an exponent, or the name of infinity or of the
undefined value in any letter case.
-/

namespace PatternServer.Number

set_option autoImplicit false

open PatternServer.Text

/-- White space that may surround a number: the information separators do not count. -/
def isNumberBlank (c : Char) : Bool :=
  isBlank c && !(0x1C ≤ c.toNat && c.toNat ≤ 0x1F)

/-- A text without the white space around the number in it. -/
def trimNumber (s : List Char) : List Char :=
  ((s.dropWhile isNumberBlank).reverse.dropWhile isNumberBlank).reverse

/-- Digits with single underscores between them, as the digits and the rest. The flag tells that a
digit has just been read. -/
def takeDigits : Bool → List Char → List Char × List Char
  | _, [] => ([], [])
  | afterDigit, c :: rest =>
    if isDecimalDigit c then
      let r := takeDigits true rest
      (c :: r.1, r.2)
    else if c = '_' ∧ afterDigit then
      match rest with
      | d :: _ =>
        if isDecimalDigit d then
          let r := takeDigits false rest
          (r.1, r.2)
        else ([], c :: rest)
      | [] => ([], [c])
    else
      ([], c :: rest)

/-- A sign, if there is one: whether it is a minus, and the rest. -/
def takeSign : List Char → Bool × List Char
  | '-' :: rest => (true, rest)
  | '+' :: rest => (false, rest)
  | s => (false, s)

def readExponent? (s : List Char) : Option Int :=
  let signed := takeSign s
  let ds := takeDigits false signed.2
  if ds.1.isEmpty || !ds.2.isEmpty then none
  else
    let size : Int := decimalValue ds.1
    some (if signed.1 then -size else size)

def readDecimal? (negative : Bool) (s : List Char) : Option Double :=
  let whole := takeDigits false s
  let point : List Char × List Char :=
    match whole.2 with
    | '.' :: rest => takeDigits false rest
    | rest => ([], rest)
  let digits := whole.1 ++ point.1
  if digits.isEmpty then none
  else
    let scaled (e : Int) : Double :=
      Double.ofDecimal negative (decimalValue digits) (e - point.1.length)
    match point.2 with
    | [] => some (scaled 0)
    | c :: rest => if c = 'e' ∨ c = 'E' then (readExponent? rest).map scaled else none

def readDouble? (s : List Char) : Option Double :=
  let signed := takeSign (trimNumber s)
  let name := String.ofList (signed.2.map Char.toLower)
  if name = "inf" ∨ name = "infinity" then some (.infinite signed.1)
  else if name = "nan" then some .nan
  else readDecimal? signed.1 signed.2

end PatternServer.Number
