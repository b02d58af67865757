import PatternServer.Number.Double

/-!
# The shortest decimal of a double

Of the decimals that read back as a given double, the one with the fewest digits, and of those the
one nearest to it. The search goes through the powers of ten from the coarsest down; the first one
with a multiple that reads back is the grid of the shortest decimal, because one of the two
neighbours of the number on a grid reads back as soon as any of its points does.
-/

namespace PatternServer.Number

set_option autoImplicit false

/-- The decimal `digits * 10 ^ power`. -/
structure Decimal where
  digits : Nat
  power : Int
deriving Repr, DecidableEq, Inhabited

/-- The reals that round to a positive double, as bounds over one denominator. -/
structure RoundingInterval where
  low : Nat
  value : Nat
  high : Nat
  den : Nat
  closed : Bool
deriving Repr

/-- The interval of `m * 2 ^ e`. Below a power of two the next double is only half as far away. -/
def RoundingInterval.ofFinite (m : Nat) (e : Int) : RoundingInterval :=
  let below := if m = Nat.pow 2 52 ∧ Double.minExponent < e then 1 else 2
  let scale (n : Nat) : Nat := if 2 ≤ e then n * Nat.pow 2 (e - 2).toNat else n
  { low := scale (4 * m - below)
    value := scale (4 * m)
    high := scale (4 * m + 2)
    den := if 2 ≤ e then 1 else Nat.pow 2 (2 - e).toNat
    closed := m % 2 = 0 }

def RoundingInterval.covers (i : RoundingInterval) (n d : Nat) : Bool :=
  if i.closed then i.low * d ≤ n * i.den && n * i.den ≤ i.high * d
  else i.low * d < n * i.den && n * i.den < i.high * d

/-- `digits * 10 ^ power` as a numerator and a denominator. -/
def Decimal.ratio (d : Decimal) : Nat × Nat :=
  if 0 ≤ d.power then (d.digits * Nat.pow 10 d.power.toNat, 1)
  else (d.digits, Nat.pow 10 (-d.power).toNat)

/-- The multiple of `10 ^ power` that is nearest to the number and reads back as it. -/
def RoundingInterval.onGrid? (i : RoundingInterval) (power : Int) : Option Decimal :=
  let unit := Decimal.ratio ⟨1, power⟩
  let num := i.value * unit.2
  let den := i.den * unit.1
  let below := num / den
  let fits (n : Nat) : Bool :=
    let r := Decimal.ratio ⟨n, power⟩
    0 < n && i.covers r.1 r.2
  let near := roundDiv num den
  let far := if near = below then below + 1 else below
  if fits near then some ⟨near, power⟩
  else if fits far then some ⟨far, power⟩
  else none

/-- The shortest decimal of the positive double `m * 2 ^ e`. -/
def shortestDecimal (m : Nat) (e : Int) : Decimal :=
  let i := RoundingInterval.ofFinite m e
  ((List.range 660).findSome? fun (k : Nat) => i.onGrid? (320 - (k : Int))).getD ⟨0, 0⟩

def digitChars (n : Nat) : List Char :=
  Nat.toDigits 10 n

/-- Pads a text on the left with zeros up to a width. -/
def padZeros (width : Nat) (s : List Char) : List Char :=
  List.replicate (width - s.length) '0' ++ s

def intChars (n : Int) : List Char :=
  if n < 0 then '-' :: digitChars n.natAbs else digitChars n.natAbs

/-- Whole numbers with more decimal digits than this are neither read nor written. -/
def digitLimit : Nat := 4300

/-- The text of a whole number within the digit limit. -/
def intChars? (n : Int) : Option (List Char) :=
  if (digitChars n.natAbs).length ≤ digitLimit then some (intChars n) else none

/-- How a positive decimal is written: positionally while the point falls among the first sixteen
places or at most four behind it, and otherwise with an exponent of at least two digits. A whole
number keeps one zero behind the point. -/
def Decimal.chars (d : Decimal) : List Char :=
  let ds := digitChars d.digits
  let point : Int := ds.length + d.power
  if -4 < point ∧ point ≤ 16 then
    if point ≤ 0 then
      '0' :: '.' :: (List.replicate (-point).toNat '0' ++ ds)
    else if ds.length ≤ point.toNat then
      ds ++ List.replicate (point.toNat - ds.length) '0' ++ ['.', '0']
    else
      ds.take point.toNat ++ '.' :: ds.drop point.toNat
  else
    let exponent := point - 1
    let mantissa :=
      match ds with
      | [] => []
      | [c] => [c]
      | c :: rest => c :: '.' :: rest
    let sign := if exponent < 0 then '-' else '+'
    mantissa ++ 'e' :: sign :: padZeros 2 (digitChars exponent.natAbs)

/-- The text of a double: its shortest decimal, or the name of a value that has none. -/
def Double.chars : Double → List Char
  | .nan => "nan".toList
  | .infinite negative => (if negative then "-inf" else "inf").toList
  | .finite negative m e =>
    let size := if m = 0 then "0.0".toList else (shortestDecimal m e).chars
    if negative then '-' :: size else size

end PatternServer.Number
