/-!
# Position encodings

An editor counts the columns of a line in code units of the encoding agreed on with it. The widths
of single characters are all that the encodings differ in.
-/

namespace PatternServer.Document

set_option autoImplicit false

inductive Encoding where
  | utf8
  | utf16
  | utf32
deriving Repr, DecidableEq, Inhabited

namespace Encoding

/-- The encoding of a name; any other name, and none at all, means UTF-16. -/
def ofName : Option String → Encoding
  | some "utf-8" => .utf8
  | some "utf-32" => .utf32
  | _ => .utf16

/-- The code units that one character takes. -/
def width : Encoding → Char → Nat
  | .utf8, c =>
    let n := c.toNat
    if n < 0x80 then 1 else if n < 0x800 then 2 else if n < 0x10000 then 3 else 4
  | .utf16, c => if c.toNat < 0x10000 then 1 else 2
  | .utf32, _ => 1

theorem width_pos (e : Encoding) (c : Char) : 0 < e.width c := by
  cases e <;> simp only [width] <;> (repeat' split) <;> omega

def units (e : Encoding) : List Char → Nat
  | [] => 0
  | c :: rest => e.width c + e.units rest

@[simp] theorem units_nil (e : Encoding) : e.units [] = 0 := rfl

@[simp] theorem units_cons (e : Encoding) (c : Char) (s : List Char) :
    e.units (c :: s) = e.width c + e.units s := rfl

@[simp] theorem units_append (e : Encoding) (s t : List Char) :
    e.units (s ++ t) = e.units s + e.units t := by
  induction s with
  | nil => simp
  | cons c s ih => simp [ih, Nat.add_assoc]

/-- How many characters of a line have to be passed until at least `wanted` code units are. A column
inside a wide character therefore falls behind it. -/
def charsFor (e : Encoding) : List Char → (wanted : Nat) → Nat
  | [], _ => 0
  | c :: rest, wanted => if wanted = 0 then 0 else 1 + e.charsFor rest (wanted - e.width c)

end Encoding

end PatternServer.Document
