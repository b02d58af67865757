/-!
# Binary floating point

Double-precision numbers as exact data: a sign, a whole mantissa and a power of two. Every
operation rounds the exact result to the nearest double, a tie to the even mantissa, so delays and
clock readings can be compared and added inside the logic. Only what the server does with numbers
is here: reading a ratio, addition, order and the bit pattern.
-/

namespace PatternServer.Number

set_option autoImplicit false

/-- A double. A finite one is `mantissa * 2 ^ exponent`; it is kept with the mantissa below `2 ^ 53`
and the exponent as small as the format allows. -/
inductive Double where
  | nan
  | infinite (negative : Bool)
  | finite (negative : Bool) (mantissa : Nat) (exponent : Int)
deriving Repr, DecidableEq, Inhabited

/-- The whole number nearest to `n / d`, a half going to the even neighbour. -/
def roundDiv (n d : Nat) : Nat :=
  let q := n / d
  let r := n % d
  if 2 * r < d then q else if d < 2 * r then q + 1 else q + q % 2

namespace Double

def minExponent : Int := -1074

def maxExponent : Int := 971

def precision : Nat := 53

def zero : Double := .finite false 0 minExponent

/-- `num / den / 2 ^ e` as a numerator and a denominator. -/
def scaleRatio (num den : Nat) (e : Int) : Nat × Nat :=
  if 0 ≤ e then (num, den * Nat.pow 2 e.toNat) else (num * Nat.pow 2 (-e).toNat, den)

/-- The greatest `l` with `2 ^ l ≤ num / den`, for positive `num` and `den`. -/
def binaryOrder (num den : Nat) : Int :=
  let guess : Int := num.log2 - den.log2
  let scaled := scaleRatio num den guess
  if scaled.2 ≤ scaled.1 then guess else guess - 1

def ofRatio (negative : Bool) (num den : Nat) : Double :=
  if num = 0 then
    .finite negative 0 minExponent
  else
    let e := max (binaryOrder num den - (precision - 1)) minExponent
    let scaled := scaleRatio num den e
    let m := roundDiv scaled.1 scaled.2
    let carried := m = Nat.pow 2 precision
    let m' := if carried then Nat.pow 2 (precision - 1) else m
    let e' := if carried then e + 1 else e
    if maxExponent < e' then .infinite negative else .finite negative m' e'

/-- The double nearest to `digits * 10 ^ power`. Powers far outside the format are decided by their
size alone. -/
def ofDecimal (negative : Bool) (digits : Nat) (power : Int) : Double :=
  if digits = 0 then
    .finite negative 0 minExponent
  else
    let order : Int := (Nat.toDigits 10 digits).length + power
    if 400 < order then .infinite negative
    else if order < -400 then .finite negative 0 minExponent
    else if 0 ≤ power then ofRatio negative (digits * Nat.pow 10 power.toNat) 1
    else ofRatio negative digits (Nat.pow 10 (-power).toNat)

def ofNat (n : Nat) : Double :=
  ofRatio false n 1

/-- The double nearest to a whole number, or `none` where that would be infinite. -/
def ofInt? (n : Int) : Option Double :=
  match ofRatio (n < 0) n.natAbs 1 with
  | .finite negative m e => some (.finite negative m e)
  | _ => none

/-- A finite double as a whole multiple of `2 ^ e`, for an `e` not above its exponent. -/
def units (negative : Bool) (m : Nat) (exponent e : Int) : Int :=
  let size : Int := (m * Nat.pow 2 (exponent - e).toNat : Nat)
  if negative then -size else size

def lt : Double → Double → Bool
  | .nan, _ => false
  | _, .nan => false
  | .infinite a, .infinite b => a && !b
  | .infinite a, .finite .. => a
  | .finite .., .infinite b => !b
  | .finite s₁ m₁ e₁, .finite s₂ m₂ e₂ =>
    let e := min e₁ e₂
    units s₁ m₁ e₁ e < units s₂ m₂ e₂ e

/-- Less than or equal; nothing compares with a NaN. -/
def le : Double → Double → Bool
  | .nan, _ => false
  | _, .nan => false
  | x, y => !lt y x

def add : Double → Double → Double
  | .nan, _ => .nan
  | _, .nan => .nan
  | .infinite a, .infinite b => if a = b then .infinite a else .nan
  | .infinite a, .finite .. => .infinite a
  | .finite .., .infinite b => .infinite b
  | .finite s₁ m₁ e₁, .finite s₂ m₂ e₂ =>
    let e := min e₁ e₂
    let sum := units s₁ m₁ e₁ e + units s₂ m₂ e₂ e
    if sum = 0 then
      .finite (s₁ && s₂) 0 minExponent
    else if 0 ≤ e then
      ofRatio (sum < 0) (sum.natAbs * Nat.pow 2 e.toNat) 1
    else
      ofRatio (sum < 0) sum.natAbs (Nat.pow 2 (-e).toNat)

/-- Neither zero nor missing: the values that count as given. -/
def isZero : Double → Bool
  | .finite _ m _ => m = 0
  | _ => false

/-- The value of a double without a fraction. -/
def toInt? : Double → Option Int
  | .finite negative m e =>
    if 0 ≤ e then
      some (units negative m e 0)
    else if m % Nat.pow 2 (-e).toNat = 0 then
      let size : Int := (m / Nat.pow 2 (-e).toNat : Nat)
      some (if negative then -size else size)
    else
      none
  | _ => none

/-- The 64 bits of the interchange format, as a number. -/
def toBits : Double → Nat
  | .nan => 0x7FF8000000000000
  | .infinite negative => (if negative then Nat.pow 2 63 else 0) + 0x7FF0000000000000
  | .finite negative m e =>
    let field :=
      if m < Nat.pow 2 52 then m
      else (e + 1075).toNat * Nat.pow 2 52 + (m - Nat.pow 2 52)
    (if negative then Nat.pow 2 63 else 0) + field

/-! Order. -/

/-- A double as a multiple of a smaller power of two. -/
theorem units_eq_mul (negative : Bool) (m : Nat) {exponent e e' : Int} (he : e' ≤ e)
    (hexponent : e ≤ exponent) :
    units negative m exponent e' =
      units negative m exponent e * (Nat.pow 2 (e - e').toNat : Nat) := by
  have hpow : Nat.pow 2 (exponent - e').toNat =
      Nat.pow 2 (exponent - e).toNat * Nat.pow 2 (e - e').toNat := by
    rw [show (exponent - e').toNat = (exponent - e).toNat + (e - e').toNat by omega]
    exact Nat.pow_add 2 _ _
  simp only [units, hpow, ← Nat.mul_assoc, Int.natCast_mul]
  cases negative with
  | false => rfl
  | true => exact (Int.neg_mul _ _).symm

theorem lt_finite_iff {s₁ s₂ : Bool} {m₁ m₂ : Nat} {e₁ e₂ e : Int} (h₁ : e ≤ e₁) (h₂ : e ≤ e₂) :
    lt (.finite s₁ m₁ e₁) (.finite s₂ m₂ e₂) = true ↔ units s₁ m₁ e₁ e < units s₂ m₂ e₂ e := by
  have hpos : (0 : Int) < (Nat.pow 2 (min e₁ e₂ - e).toNat : Nat) :=
    Int.natCast_pos.mpr (Nat.pow_pos (by decide))
  have hmin : e ≤ min e₁ e₂ := by omega
  rw [units_eq_mul s₁ m₁ hmin (Int.min_le_left e₁ e₂),
    units_eq_mul s₂ m₂ hmin (Int.min_le_right e₁ e₂), Int.mul_lt_mul_right hpos]
  simp only [lt, decide_eq_true_eq]

/-- A double is below whatever lies above a double that it does not exceed. -/
theorem lt_of_le_of_lt {x y z : Double} (hxy : x.le y = true) (hyz : y.lt z = true) :
    x.lt z = true := by
  rcases x with _ | a | ⟨s₁, m₁, e₁⟩ <;> rcases y with _ | b | ⟨s₂, m₂, e₂⟩ <;>
    rcases z with _ | c | ⟨s₃, m₃, e₃⟩
  case finite.finite.finite =>
    -- All three are multiples of the smallest of their powers of two.
    obtain ⟨e, h₁, h₂, h₃⟩ : ∃ e, e ≤ e₁ ∧ e ≤ e₂ ∧ e ≤ e₃ :=
      ⟨min e₁ (min e₂ e₃), by omega, by omega, by omega⟩
    have hnot : ¬ units s₂ m₂ e₂ e < units s₁ m₁ e₁ e := by
      rw [← lt_finite_iff h₂ h₁]
      simpa [le] using hxy
    have hlt := (lt_finite_iff h₂ h₃).mp hyz
    exact (lt_finite_iff h₁ h₃).mpr (Int.lt_of_le_of_lt (Int.not_lt.mp hnot) hlt)
  all_goals simp_all [le, lt]

end Double

end PatternServer.Number
