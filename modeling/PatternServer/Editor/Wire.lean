import PatternServer.Data.Value
import PatternServer.Editor.CodeAction
import PatternServer.Editor.Completion
import PatternServer.Editor.Hover
import PatternServer.Editor.SignatureHelp

/-!
# Wire forms

The forms in which positions, remarks, items and fixes travel to an editor. Fields that are not set
are left out.
-/

namespace PatternServer.Editor

set_option autoImplicit false

open PatternServer.Data PatternServer.Diagnostics PatternServer.Document PatternServer.Vocabulary

/-- A table of those fields that are set. -/
def tableOf (fields : List (String × Option Value)) : Value :=
  .table (fields.filterMap fun f => f.2.map fun v => (f.1, v))

def natValue (n : Nat) : Value := .int n

def positionValue (p : Position) : Value :=
  .table [("line", natValue p.line), ("character", natValue p.character)]

def rangeValue (r : Range) : Value :=
  .table [("start", positionValue r.start), ("end", positionValue r.stop)]

def diagnosticValue (d : Diagnostic) : Value :=
  tableOf
    [("range", some (rangeValue d.range)),
     ("message", some (.text d.message)),
     ("severity", d.severity.map fun s => natValue s.number),
     ("code", d.code.map fun c => .text c.name),
     ("source", d.source.map .text)]

def markdownValue (text : String) : Value :=
  .table [("kind", .text "markdown"), ("value", .text text)]

def documentationValue : ItemDocumentation → Value
  | .plain text => .text text
  | .markdown text => markdownValue text

/-- The number of the format whose places to fill in are marked. -/
def snippetFormat : Nat := 2

def completionItemValue (i : CompletionItem) : Value :=
  tableOf
    [("label", some (.text i.label)),
     ("kind", some (natValue i.kind.number)),
     ("detail", some (.text i.detail)),
     ("documentation", i.documentation.map documentationValue),
     ("sortText", i.sortText.map .text),
     ("insertText", i.snippet.map .text),
     ("insertTextFormat", i.snippet.map fun _ => natValue snippetFormat)]

def hoverValue (text : String) : Value :=
  .table [("contents", markdownValue text)]

def parameterValue (p : Parameter) : Value :=
  .table [("label", .text p.label), ("documentation", markdownValue p.documentation)]

def signatureInfoValue (s : SignatureInfo) : Value :=
  .table
    [("label", .text s.label),
     ("documentation", .text s.documentation),
     ("parameters", .list (s.parameters.map parameterValue)),
     ("activeParameter", .null)]

def signatureHelpValue (h : SignatureHelp) : Value :=
  .table
    [("signatures", .list (h.signatures.map signatureInfoValue)),
     ("activeSignature", natValue h.activeSignature),
     ("activeParameter", natValue h.activeParameter)]

def codeActionValue (a : CodeAction) : Value :=
  .table
    [("title", .text a.title),
     ("kind", .text "quickfix"),
     ("diagnostics", .list [diagnosticValue a.diagnostic]),
     ("isPreferred", .bool a.isPreferred),
     ("edit", .table [("changes", .table [(a.uri, .list
       [.table [("range", rangeValue a.diagnostic.range), ("newText", .text a.replacement)]])])])]

def publishValue (uri : String) (diagnostics : List Diagnostic) : Value :=
  .table [("uri", .text uri), ("diagnostics", .list (diagnostics.map diagnosticValue))]

end PatternServer.Editor
