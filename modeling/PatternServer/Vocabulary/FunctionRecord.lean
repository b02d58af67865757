import PatternServer.Data.Record
import PatternServer.Vocabulary.HostFunction

/-!
# Function records

Host functions as values, for tables of functions that come from elsewhere. Only the name of a
function and the labels of its signatures and parameters are required.
-/

namespace PatternServer.Vocabulary

set_option autoImplicit false

open PatternServer.Data

def Parameter.ofValue? (v : Value) : Option Parameter := do
  let fields ← v.asTable?
  let label ← Value.field? fields "label" none Value.asText?
  let documentation ← Value.field? fields "documentation" (some "") Value.asText?
  return { label, documentation }

def Signature.ofValue? (v : Value) : Option Signature := do
  let fields ← v.asTable?
  let label ← Value.field? fields "label" none Value.asText?
  let documentation ←
    Value.field? fields "documentation" (some none) (Value.orNull? Value.asText?)
  let parameters ←
    Value.field? fields "parameters" (some []) (Value.asListOf? Parameter.ofValue?)
  return { label, documentation, parameters }

def HostFunction.ofValue? (v : Value) : Option HostFunction := do
  let fields ← v.asTable?
  let name ← Value.field? fields "name" none Value.asText?
  let detail ← Value.field? fields "detail" (some "") Value.asText?
  let documentation ← Value.field? fields "documentation" (some "") Value.asText?
  let signatures ←
    Value.field? fields "signatures" (some []) (Value.asListOf? Signature.ofValue?)
  return { name, detail, documentation, signatures }

def Parameter.toValue (p : Parameter) : Value :=
  .table [("label", .text p.label), ("documentation", .text p.documentation)]

def Signature.toValue (s : Signature) : Value :=
  .table
    [("label", .text s.label),
     ("documentation", (s.documentation.map Value.text).getD .null),
     ("parameters", .list (s.parameters.map Parameter.toValue))]

def HostFunction.toValue (f : HostFunction) : Value :=
  .table
    [("name", .text f.name),
     ("detail", .text f.detail),
     ("documentation", .text f.documentation),
     ("signatures", .list (f.signatures.map Signature.toValue))]

end PatternServer.Vocabulary
