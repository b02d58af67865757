import PatternServer.Document.Call
import PatternServer.Document.Position
import PatternServer.Vocabulary.Registry

/-!
# Hover

What is shown about the word under the cursor, or about the operator there when the cursor is on no
word and inside a literal. All texts are markdown.
-/

namespace PatternServer.Editor

set_option autoImplicit false

open PatternServer.Document PatternServer.Vocabulary

def codeBlock (code : String) : String :=
  "```javascript\n" ++ code ++ "\n```"

def sampleHover (word : String) : String :=
  "**" ++ word ++ "** - Sample\n\nPlay the " ++ word ++ " sound.\n\n" ++
    codeBlock ("s(\"" ++ word ++ "\")")

def noteHover (word note octave : String) : String :=
  "**" ++ word ++ "** - Note\n\nMusical note " ++ note.toUpper ++ octave ++ ".\n\n" ++
    codeBlock ("note(\"" ++ word ++ "\")")

def functionHover (f : HostFunction) : String :=
  "**" ++ f.name ++ "** - " ++ f.detail ++ "\n\n" ++ f.documentation ++ "\n\n" ++
    codeBlock ("\n".intercalate (f.signatures.map (·.label)))

def scaleHover (word : String) : String :=
  "**" ++ word ++ "** - Scale\n\nMusical scale.\n\n" ++ codeBlock (".scale(\"" ++ word ++ "\")")

def bankHover (word : String) : String :=
  "**" ++ word ++ "** - Sample Bank\n\nDrum machine sample bank.\n\n" ++
    codeBlock (".bank(\"" ++ word ++ "\")")

/-- What is known about a word: as a sample, a note, a function, a scale or a bank, the first that
it is. -/
def hoverForWord? (registry : Registry) (word : String) : Option String :=
  if registry.isSample word then some (sampleHover word)
  else
    let note := String.ofList (word.toList.filter fun c => !c.isDigit)
    let octave := String.ofList (word.toList.filter Char.isDigit)
    if Catalog.noteNames.contains note then some (noteHover word note octave)
    else
      match registry.function? word with
      | some f => some (functionHover f)
      | none =>
        if Catalog.scaleNames.contains word then some (scaleHover word)
        else if registry.isBank word then some (bankHover word)
        else none

/-- What is known about a character as a part of an operator. -/
def hoverForOperator? (c : Char) : Option String :=
  (Catalog.operators.find? fun o => o.label.toList.contains c).map fun o =>
    "**" ++ o.label ++ "** - " ++ o.detail ++ "\n\n" ++ o.documentation

def hover (e : Encoding) (text : List Char) (p : Position) (registry : Registry) :
    Except ScanError (Option String) := do
  let offset := p.offset e text
  let word ← wordAround text offset
  if !word.isEmpty then
    return hoverForWord? registry (String.ofList word)
  else
    match ← enclosingLiteral text offset with
    | some _ => return (text.drop offset).head?.bind hoverForOperator?
    | none => return none

end PatternServer.Editor
