import PatternServer.Document.Call
import PatternServer.Document.Position
import PatternServer.Vocabulary.Registry

/-!
# Signature help

The signatures of the function whose argument list the cursor is in, and the one of them and the
parameter of it that fit the argument.
-/

namespace PatternServer.Editor

set_option autoImplicit false

open PatternServer.Document PatternServer.Vocabulary

/-- A signature with the documentation that is shown for it. -/
structure SignatureInfo where
  label : String
  documentation : String
  parameters : List Parameter
deriving Repr, DecidableEq, Inhabited

structure SignatureHelp where
  signatures : List SignatureInfo
  activeSignature : Nat
  activeParameter : Nat
deriving Repr, DecidableEq, Inhabited

/-- A signature without documentation of its own is shown with its function's. -/
def signatureInfo (f : HostFunction) (s : Signature) : SignatureInfo :=
  { label := s.label
    documentation :=
      match s.documentation with
      | some d => if d.isEmpty then f.documentation else d
      | none => f.documentation
    parameters := s.parameters }

/-- The first signature that has a parameter for the argument, else the first of all. -/
def activeSignature (signatures : List Signature) (argument : Nat) : Nat :=
  (signatures.findIdx? fun s => argument < s.parameters.length).getD 0

def helpFor (f : HostFunction) (argument : Nat) : SignatureHelp :=
  let active := activeSignature f.signatures argument
  let count := ((f.signatures[active]?).map fun s => s.parameters.length).getD 0
  { signatures := f.signatures.map (signatureInfo f)
    activeSignature := active
    activeParameter := min argument (count - 1) }

def signatureHelp (e : Encoding) (text : List Char) (p : Position) (registry : Registry) :
    Except ScanError (Option SignatureHelp) := do
  match ← enclosingCall text (p.offset e text) with
  | none => return none
  | some call =>
    match registry.function? (String.ofList call.name) with
    | none => return none
    | some f =>
      if f.signatures.isEmpty then return none else return some (helpFor f call.argument)

end PatternServer.Editor
