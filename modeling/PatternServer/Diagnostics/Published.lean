import PatternServer.Diagnostics.Diagnostic

/-!
# Published reports

The latest report on each document, in the order in which the documents were first published.
-/

namespace PatternServer.Diagnostics

set_option autoImplicit false

structure Published where
  reports : List (String × Report)
deriving Repr, DecidableEq, Inhabited

namespace Published

def empty : Published := ⟨[]⟩

def put (uri : String) (report : Report) : List (String × Report) → List (String × Report)
  | [] => [(uri, report)]
  | p :: rest => if p.1 = uri then (uri, report) :: rest else p :: put uri report rest

def publish (p : Published) (uri : String) (report : Report) : Published :=
  ⟨put uri report p.reports⟩

def get? (p : Published) (uri : String) : Option Report :=
  (p.reports.find? fun r => r.1 == uri).map (·.2)

def drop (p : Published) (uri : String) : Published :=
  ⟨p.reports.filter fun r => r.1 != uri⟩

def offer? (p : Published) (uri key : String) : Option Offer :=
  (p.get? uri).bind fun r => r.offer? key

def uris (p : Published) : List String :=
  p.reports.map (·.1)

end Published

end PatternServer.Diagnostics
