import PatternServer.Command.Arguments
import PatternServer.Data.JsonText
import PatternServer.Server.Basic
import PatternServer.Text.Utf8

/-!
# Checking files

The diagnostics of files, as lines of text or as one JSON document. Lines and columns are counted
from one, columns in characters. A file counts as read with its line ends unified.
-/

namespace PatternServer.Command

set_option autoImplicit false

open PatternServer.Data PatternServer.Diagnostics PatternServer.Document PatternServer.Files
open PatternServer.Number PatternServer.Text PatternServer.Vocabulary

structure Finding where
  path : Path
  line : Nat
  column : Nat
  severity : Severity
  code : Option Code
  message : String
  suggestions : List String
deriving Repr, DecidableEq, Inhabited

namespace Finding

/-- A diagnostic of a report. The suggestions are those offered where it begins. -/
def ofDiagnostic (path : Path) (report : Report) (d : Diagnostic) : Finding :=
  { path
    line := d.range.start.line + 1
    column := d.range.start.character + 1
    severity := d.severity.getD .error
    code := d.code
    message := d.message
    suggestions := ((report.offer? d.range.start.key).map (·.suggestions)).getD [] }

def codeName (f : Finding) : String := (f.code.map Code.name).getD "None"

def text (f : Finding) : String :=
  f.path.toText ++ ":" ++ String.ofList (digitChars f.line) ++ ":" ++
    String.ofList (digitChars f.column) ++ ": " ++ f.severity.name ++ " " ++ f.codeName ++ " " ++
    f.message ++ "\n"

def toValue (f : Finding) : Value :=
  .table
    [("path", .text f.path.toText), ("line", .int f.line), ("column", .int f.column),
     ("severity", .text f.severity.name), ("code", (f.code.map fun c => .text c.name).getD .null),
     ("message", .text f.message), ("suggestions", .list (f.suggestions.map .text))]

end Finding

inductive CheckError where
  | fileNotText
  | tooManyDigits
deriving Repr, DecidableEq, Inhabited

def checkFile (parser : Server.Parser) (registry : Registry) (path : Path)
    (content : List UInt8) : Except CheckError (List Finding) :=
  match Utf8.decode? content with
  | none => .error .fileNotText
  | some text =>
    match validate (Diagnostics.parseWith parser) ⟨unifyLineEnds text, .utf32, registry⟩ with
    | .error .tooManyDigits => .error .tooManyDigits
    | .ok report => .ok (report.diagnostics.map (Finding.ofDiagnostic path report))

def checkFiles (parser : Server.Parser) (registry : Registry) :
    List (Path × List UInt8) → Except CheckError (List Finding)
  | [] => .ok []
  | file :: rest => do
    let findings ← checkFile parser registry file.1 file.2
    let more ← checkFiles parser registry rest
    return findings ++ more

/-- What is printed for findings, in pieces that are printed one after the other. -/
def render (json : Bool) (findings : List Finding) : List String :=
  if json then [Json.write .indented (.list (findings.map Finding.toValue)) ++ "\n"]
  else findings.map Finding.text

/-- The exit code for findings: one if any of them is an error. -/
def exitCode (findings : List Finding) : Nat :=
  if findings.any fun f => f.severity == .error then 1 else 0

end PatternServer.Command
