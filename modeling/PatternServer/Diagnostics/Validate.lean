import PatternServer.Diagnostics.Atom
import PatternServer.Diagnostics.Diagnostic
import PatternServer.Document.Call
import PatternServer.Notation.Outcome
import PatternServer.Vocabulary.Similarity

/-!
# Validation of a document

Every literal of a document that may hold a pattern is parsed; a failed parse and every unknown atom
are remarked on, and so is every call of a function that is not known but has a similar name that
is. Spans that a parser reports are brought back into the document and never leave their literal.
The parser is a parameter and may keep a state or fail, as its monad says.
-/

namespace PatternServer.Diagnostics

set_option autoImplicit false

open PatternServer.Document PatternServer.Notation PatternServer.Vocabulary

/-- The offset of the document that an offset of the quoted form means. -/
def remapOffset (l : Literal) (offset : Int) : Nat :=
  min (l.start + (offset - 1).toNat) l.stop

def remapSpan (l : Literal) (span : Span) : Nat × Nat :=
  let start := remapOffset l span.start
  (start, max start (remapOffset l span.stop))

namespace Remark

def parseError (start stop : Nat) (f : Failure) : Remark :=
  ⟨start, stop, .error, .parseError, f.render, ⟨.unbalancedBracket, none, []⟩⟩

/-- The remark on an unknown atom: a warning if something similar is known, else a hint. -/
def unknownSample (registry : Registry) (word : String) (start stop : Nat) : Remark :=
  let suggestions := suggest word registry.samples
  { start, stop
    severity := if suggestions.isEmpty then .hint else .warning
    code := .unknownSample
    message :=
      if suggestions.isEmpty then
        "Unknown sample '" ++ word ++ "' (may work if loaded dynamically)"
      else
        "Unknown sample '" ++ word ++ "'. Did you mean: " ++ ", ".intercalate suggestions ++ "?"
    offer := ⟨.unknownSample, some word, suggestions⟩ }

/-- The remark on a call of a function that is not known, if there is anything to suggest. -/
def unknownFunction? (registry : Registry) (site : CallSite) : Option Remark :=
  let name := String.ofList site.name
  if registry.isFunction name || Catalog.hostMethods.contains name then none
  else
    let suggestions := suggest name registry.functionNames
    if suggestions.isEmpty then none
    else
      some ⟨site.start, site.start + site.name.length, .warning, .unknownFunction,
        "Unknown function '" ++ name ++ "'. Did you mean: " ++ ", ".intercalate suggestions ++
          "?",
        ⟨.unknownFunction, some name, suggestions⟩⟩

end Remark

/-- The remark on a leaf of a literal, if it is an unknown atom. -/
def leafRemark? (registry : Registry) (l : Literal) (leaf : Leaf) : Option Remark :=
  if leaf.kind ≠ "atom" || isKnownAtom registry leaf.text then none
  else
    let (start, stop) := remapSpan l leaf.span
    some (.unknownSample registry leaf.text start stop)

def callRemarks (registry : Registry) (text : List Char) : List Remark :=
  (callSites text).filterMap (Remark.unknownFunction? registry)

/-- What a document is validated against. -/
structure Context where
  text : List Char
  encoding : Encoding
  registry : Registry

namespace Context

def range (c : Context) (start stop : Nat) : Range :=
  rangeOf c.encoding c.text start stop

def position (c : Context) (offset : Nat) : Position :=
  positionAt c.encoding c.text offset

def put (c : Context) (r : Report) (m : Remark) : Report :=
  r.add (c.range m.start m.stop) m

def putAll (c : Context) (r : Report) (remarks : List Remark) : Report :=
  remarks.foldl c.put r

/-- The remark on a word of a body that was not parsed. No second remark begins where there is one
already. -/
def checkWord (c : Context) (l : Literal) (r : Report) (token : Nat × List Char) : Report :=
  let name := String.ofList token.2
  if isKnownAtom c.registry name then r
  else
    let start := l.start + token.1
    if r.hasOfferAt (c.position start) then r
    else c.put r (.unknownSample c.registry name start (start + token.2.length))

def checkFallback (c : Context) (l : Literal) (r : Report) : Report :=
  (fallbackTokens l.body).foldl (c.checkWord l) r

def checkOutcome (c : Context) (l : Literal) (outcome : Outcome) (r : Report) : Report :=
  match outcome with
  | .failure f =>
    match f.span with
    | some span =>
      let (start, stop) := remapSpan l span
      c.put r (.parseError start stop f)
    | none =>
      let r :=
        if f.parserRan then c.put r (.parseError l.start (min (l.start + 1) l.stop) f) else r
      c.checkFallback l r
  | .success leaves => c.putAll r (leaves.filterMap (leafRemark? c.registry l))

/-- Whether a literal is left alone: it is no pattern, or it is the argument of a function that
takes names of another kind. -/
def skips (c : Context) (l : Literal) : Bool :=
  let isNonSample (name : List Char) : Bool :=
    c.registry.isNonSampleFunction (String.ofList name)
  let quote := l.start - 1
  isExcluded l.body ||
    (callOpeningBefore c.text quote).any isNonSample ||
    match enclosingCall c.text quote with
    | .ok (some call) => isNonSample call.name
    | _ => false

def checkCalls (c : Context) (r : Report) : Report :=
  c.putAll r (callRemarks c.registry c.text)

def checkedLiterals (c : Context) : List Literal :=
  (literals c.text).filter fun l => !c.skips l

end Context

/-- The report on a document. Literals come first, in the order of the document, and calls after
them. `parse` gives the outcome of a body. -/
def validate {m : Type → Type} [Monad m] (parse : List Char → m Outcome) (c : Context) :
    m Report := do
  let report ← c.checkedLiterals.foldlM (fun r l => do
    let outcome ← parse l.body
    return c.checkOutcome l outcome r) Report.empty
  return c.checkCalls report

/-- The parser whose answer to the quoted form of a body depends on that form alone. -/
def parseWith (parser : List Char → Except Refusal (List Leaf)) (body : List Char) :
    Except OutcomeError Outcome :=
  let quoted := quoteBody body
  outcomeOf quoted (parser quoted)

end PatternServer.Diagnostics
