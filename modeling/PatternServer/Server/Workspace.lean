import PatternServer.Document.Change
import PatternServer.Files.Uri

/-!
# Open documents

The documents that the editor has open, in the order in which they were first opened. By which names
they are stored, where their files are and what a change leaves of a text is not up to the server:
it is said by the rules of the workspace.
-/

namespace PatternServer.Server

set_option autoImplicit false

open PatternServer.Document PatternServer.Files

/-- How a workspace deals with documents. -/
structure Workspace.Rules where
  /-- The name under which a document is stored. -/
  key : String → String
  /-- Where the file of a document is, unless its URI is ill-formed. -/
  path? : String → Option Path
  edit : Encoding → List Char → Change → List Char

/-- Documents are stored under their URIs without percent escapes, so that spellings of one URI
meet. -/
def Workspace.Rules.decoding : Workspace.Rules where
  key uri := String.ofList (Uri.percentDecode uri.toList)
  path? uri := Uri.documentPath? uri.toList
  edit encoding text change := change.apply encoding text

structure Workspace where
  rules : Workspace.Rules
  encoding : Encoding
  documents : List (String × List Char)

namespace Workspace

def empty (rules : Rules) (encoding : Encoding) : Workspace := ⟨rules, encoding, []⟩

def put (key : String) (text : List Char) :
    List (String × List Char) → List (String × List Char)
  | [] => [(key, text)]
  | d :: rest => if d.1 = key then (key, text) :: rest else d :: put key text rest

/-- Opens a document, or opens it again with another text. -/
def openDocument (w : Workspace) (uri : String) (text : List Char) : Workspace :=
  { w with documents := put (w.rules.key uri) text w.documents }

def closeDocument (w : Workspace) (uri : String) : Workspace :=
  { w with documents := w.documents.filter fun d => d.1 != w.rules.key uri }

def text? (w : Workspace) (uri : String) : Option (List Char) :=
  (w.documents.find? fun d => d.1 == w.rules.key uri).map (·.2)

/-- Changes an open document; there is nothing to change if it is not open. -/
def changeDocument? (w : Workspace) (uri : String) (change : Change) : Option Workspace :=
  (w.text? uri).map fun text => w.openDocument uri (w.rules.edit w.encoding text change)

/-- Makes changes one after the other, each to the text that the one before it has left. The flag
tells whether all of them could be made. -/
def changeAll (w : Workspace) (uri : String) : List Change → Workspace × Bool
  | [] => (w, true)
  | change :: rest =>
    match w.changeDocument? uri change with
    | some w => w.changeAll uri rest
    | none => (w, false)

/-- The names under which documents are stored. -/
def keys (w : Workspace) : List String :=
  w.documents.map (·.1)

end Workspace

end PatternServer.Server
