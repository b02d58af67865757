/-!
# Decoding UTF-8

The decoder as a machine that reads one byte at a time. Its state says which bytes may continue the
character that has been begun, so a byte that does not fit ends exactly the longest beginning of a
well-formed character; that beginning is one fault, and the byte is then read afresh. On the machine
rest three decoders: of a whole text that must be well formed, of a whole text with a replacement
character for each fault, and of a text that arrives in pieces.
-/

namespace PatternServer.Text

set_option autoImplicit false

/-- What the decoder has in hand between two bytes. -/
inductive Utf8State where
  /-- Nothing: the next byte begins a character. -/
  | ground
  /-- The value so far, how many bytes are missing, and the bounds of the next one. -/
  | inside (value missing low high : Nat)
deriving Repr, DecidableEq, Inhabited

namespace Utf8

def replacement : Char := Char.ofNat 0xFFFD

/-- Reads a byte that begins a character. A byte that cannot is a fault, shown as `none`. -/
def begin (b : Nat) : List (Option Char) × Utf8State :=
  if b < 0x80 then ([some (Char.ofNat b)], .ground)
  else if b < 0xC2 then ([none], .ground)
  else if b < 0xE0 then ([], .inside (b - 0xC0) 1 0x80 0xBF)
  else if b = 0xE0 then ([], .inside 0 2 0xA0 0xBF)
  else if b = 0xED then ([], .inside 0xD 2 0x80 0x9F)
  else if b < 0xF0 then ([], .inside (b - 0xE0) 2 0x80 0xBF)
  else if b = 0xF0 then ([], .inside 0 3 0x90 0xBF)
  else if b < 0xF4 then ([], .inside (b - 0xF0) 3 0x80 0xBF)
  else if b = 0xF4 then ([], .inside 4 3 0x80 0x8F)
  else ([none], .ground)

/-- Reads one byte: the characters and faults that are now complete, and the new state. -/
def step : Utf8State → UInt8 → List (Option Char) × Utf8State
  | .ground, b => begin b.toNat
  | .inside value missing low high, b =>
    if low ≤ b.toNat ∧ b.toNat ≤ high then
      let value := value * 64 + (b.toNat - 0x80)
      if missing ≤ 1 then ([some (Char.ofNat value)], .ground)
      else ([], .inside value (missing - 1) 0x80 0xBF)
    else
      let r := begin b.toNat
      (none :: r.1, r.2)

def run (state : Utf8State) : List UInt8 → List (Option Char) × Utf8State
  | [] => ([], state)
  | b :: rest =>
    let now := step state b
    let later := run now.2 rest
    (now.1 ++ later.1, later.2)

/-- Characters with each fault replaced. -/
def replaceFaults (cs : List (Option Char)) : List Char :=
  cs.map fun c => c.getD replacement

/-- The next piece of a text that arrives in pieces; a character that is not complete yet waits in
the state. -/
def decodePiece (state : Utf8State) (bytes : List UInt8) : List Char × Utf8State :=
  let r := run state bytes
  (replaceFaults r.1, r.2)

/-- A whole text with each fault replaced; a character cut off at the end is a fault. -/
def decodeReplacing (bytes : List UInt8) : List Char :=
  let r := run .ground bytes
  replaceFaults r.1 ++ (if r.2 = .ground then [] else [replacement])

/-- A whole text that must be well formed. -/
def decode? (bytes : List UInt8) : Option (List Char) :=
  let r := run .ground bytes
  if r.2 = .ground then r.1.foldr (fun c rest => c.bind fun c => rest.map (c :: ·)) (some [])
  else none

def encode (s : String) : List UInt8 :=
  s.toUTF8.toList

end Utf8

/-- A text read from a file: every line end, however it is written, is a line feed. -/
def unifyLineEnds : List Char → List Char
  | [] => []
  | '\r' :: '\n' :: rest => '\n' :: unifyLineEnds rest
  | c :: rest => (if c = '\r' then '\n' else c) :: unifyLineEnds rest

end PatternServer.Text
