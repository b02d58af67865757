import PatternServer.Diagnostics.Published

/-!
# Quick fixes

For each remark of this server that an editor asks about, one fix for each word that was offered
where the remark begins. The first is the preferred one.
-/

namespace PatternServer.Editor

set_option autoImplicit false

open PatternServer.Diagnostics

/-- A fix: put `replacement` in place of the stretch that the remark is on. -/
structure CodeAction where
  uri : String
  diagnostic : Diagnostic
  replacement : String
  isPreferred : Bool
deriving Repr, DecidableEq, Inhabited

def CodeAction.title (a : CodeAction) : String :=
  "Replace with '" ++ a.replacement ++ "'"

def actionsFor (uri : String) (published : Published) (d : Diagnostic) : List CodeAction :=
  if d.source ≠ some sourceName then []
  else
    match published.offer? uri d.range.start.key with
    | none => []
    | some offer =>
      offer.suggestions.zipIdx.map fun (word, index) =>
        { uri, diagnostic := d, replacement := word, isPreferred := index = 0 }

def codeActions (uri : String) (diagnostics : List Diagnostic) (published : Published) :
    List CodeAction :=
  diagnostics.flatMap (actionsFor uri published)

end PatternServer.Editor
