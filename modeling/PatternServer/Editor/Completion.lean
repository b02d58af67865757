import PatternServer.Document.Literal
import PatternServer.Document.Position
import PatternServer.Vocabulary.Registry

/-!
# Completion

What an editor may insert at an offset. Inside a literal these are samples, notes and operators, and
the variants of a sample directly behind a colon; elsewhere they are functions and scales, and banks
where a bank function has been opened shortly before.
-/

namespace PatternServer.Editor

set_option autoImplicit false

open PatternServer.Document PatternServer.Vocabulary

inductive ItemKind where
  | value
  | operator
  | function
  | enum
  | module
deriving Repr, DecidableEq, Inhabited

/-- The number by which the editor protocol knows a kind of item. -/
def ItemKind.number : ItemKind → Nat
  | .value => 12
  | .operator => 24
  | .function => 3
  | .enum => 13
  | .module => 9

inductive ItemDocumentation where
  | plain (text : String)
  | markdown (text : String)
deriving Repr, DecidableEq, Inhabited

structure CompletionItem where
  label : String
  kind : ItemKind
  detail : String
  documentation : Option ItemDocumentation
  sortText : Option String
  /-- What is inserted in place of the label, with the places to fill in marked. -/
  snippet : Option String
deriving Repr, DecidableEq, Inhabited

/-- How many variants of a sample are offered. -/
def sampleVariants : Nat := 16

/-- How far back an opened bank function is looked for. -/
def lookBehind : Nat := 50

def variantItems : List CompletionItem :=
  (List.range sampleVariants).map fun i =>
    { label := toString i
      kind := .value
      detail := "Sample variant " ++ toString i
      documentation := none
      sortText := some (if i < 10 then "0" ++ toString i else toString i)
      snippet := none }

def sampleItem (sample : String) : CompletionItem :=
  { label := sample
    kind := .value
    detail := "Sample"
    documentation := some (.plain ("Play " ++ sample ++ " sound"))
    sortText := none
    snippet := none }

def noteItem (note octave : String) : CompletionItem :=
  { label := note ++ octave
    kind := .value
    detail := "Note"
    documentation := some (.plain ("Note " ++ note.toUpper ++ octave))
    sortText := some ("1" ++ note ++ octave)
    snippet := none }

def operatorItem (o : Catalog.Operator) : CompletionItem :=
  { label := o.label
    kind := .operator
    detail := o.detail
    documentation := some (.plain o.documentation)
    sortText := some ("2" ++ o.label)
    snippet := none }

def patternItems (registry : Registry) : List CompletionItem :=
  registry.samples.map sampleItem ++
    Catalog.noteNames.flatMap (fun note => Catalog.octaves.map (noteItem note)) ++
    Catalog.operators.map operatorItem

/-- A function's documentation, with its first signature as code. -/
def functionMarkdown (f : HostFunction) : String :=
  match f.signatures with
  | [] => f.documentation
  | s :: _ => f.documentation ++ "\n\n```javascript\n" ++ s.label ++ "\n```"

def functionItem (f : HostFunction) : CompletionItem :=
  { label := f.name
    kind := .function
    detail := f.detail
    documentation := some (.markdown (functionMarkdown f))
    sortText := none
    snippet := some (f.name ++ "($1)") }

def scaleItem (scale : String) : CompletionItem :=
  { label := scale
    kind := .enum
    detail := "Scale"
    documentation := some (.plain (scale ++ " scale"))
    sortText := none
    snippet := none }

def bankItem (bank : String) : CompletionItem :=
  { label := bank
    kind := .module
    detail := "Sample bank"
    documentation := some (.plain ("Use " ++ bank ++ " drum machine samples"))
    sortText := none
    snippet := none }

/-- What may stand in code whose last stretch is `before`. -/
def codeItems (registry : Registry) (before : List Char) : List CompletionItem :=
  registry.functions.map functionItem ++ Catalog.scaleNames.map scaleItem ++
    if occursIn ".bank(".toList before then registry.banks.map bankItem else []

def complete (e : Encoding) (text : List Char) (p : Position) (registry : Registry) :
    Except ScanError (List CompletionItem) := do
  let offset := p.offset e text
  match ← enclosingLiteral text offset with
  | some l =>
    if (l.body.take (offset - l.start)).getLast? = some ':' then return variantItems
    else return patternItems registry
  | none => return codeItems registry ((text.take offset).drop (offset - lookBehind))

end PatternServer.Editor
