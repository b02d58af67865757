import PatternServer.Document.Position

/-!
# Diagnostics

A remark on a stretch of a document, and what is offered to mend it. Offers are found again by the
position at which their remark begins.
-/

namespace PatternServer.Diagnostics

set_option autoImplicit false

open PatternServer.Document

inductive Severity where
  | error
  | warning
  | hint
deriving Repr, DecidableEq, Inhabited

/-- The number by which the editor protocol knows a severity. -/
def Severity.number : Severity → Nat
  | .error => 1
  | .warning => 2
  | .hint => 4

def Severity.name : Severity → String
  | .error => "error"
  | .warning => "warning"
  | .hint => "hint"

inductive Code where
  | parseError
  | unknownSample
  | unknownFunction
deriving Repr, DecidableEq, Inhabited

def Code.name : Code → String
  | .parseError => "parse-error"
  | .unknownSample => "unknown-sample"
  | .unknownFunction => "unknown-function"

def sourceName : String := "strudel"

/-- A remark. One that an editor sends back may lack its severity and its code. -/
structure Diagnostic where
  range : Range
  message : String
  severity : Option Severity
  code : Option Code
  source : Option String
deriving Repr, DecidableEq, Inhabited

inductive OfferKind where
  | unbalancedBracket
  | unknownSample
  | unknownFunction
deriving Repr, DecidableEq, Inhabited

def OfferKind.name : OfferKind → String
  | .unbalancedBracket => "unbalanced_bracket"
  | .unknownSample => "unknown_sample"
  | .unknownFunction => "unknown_function"

/-- What is offered for a remark: the word it is about and the words to put in its place. -/
structure Offer where
  kind : OfferKind
  word : Option String
  suggestions : List String
deriving Repr, DecidableEq, Inhabited

/-- A remark by the offsets it lies between, before it has its place in a report. -/
structure Remark where
  start : Nat
  stop : Nat
  severity : Severity
  code : Code
  message : String
  offer : Offer
deriving Repr, DecidableEq, Inhabited

/-- A remark on a range as an editor gets it. -/
def Remark.diagnostic (m : Remark) (range : Range) : Diagnostic :=
  { range
    message := m.message
    severity := some m.severity
    code := some m.code
    source := some sourceName }

/-- The remarks on a document, and the offers by the keys of their positions, in the order in which
the keys first came up. -/
structure Report where
  diagnostics : List Diagnostic
  offers : List (String × Offer)
deriving Repr, DecidableEq, Inhabited

namespace Report

def empty : Report := ⟨[], []⟩

/-- The offers after one is made; at one position the last offer counts. -/
def putOffer (key : String) (offer : Offer) : List (String × Offer) → List (String × Offer)
  | [] => [(key, offer)]
  | o :: rest => if o.1 = key then (key, offer) :: rest else o :: putOffer key offer rest

def offer? (r : Report) (key : String) : Option Offer :=
  (r.offers.find? fun o => o.1 == key).map (·.2)

/-- Whether a remark already begins at a position. -/
def hasOfferAt (r : Report) (p : Position) : Bool :=
  (r.offer? p.key).isSome

/-- A report with one more remark, which lies on a range. -/
def add (r : Report) (range : Range) (m : Remark) : Report :=
  { diagnostics := r.diagnostics ++ [m.diagnostic range]
    offers := putOffer range.start.key m.offer r.offers }

end Report

end PatternServer.Diagnostics
