/-!
# Host functions

What the editor knows about a function of the host language: its documentation and the signatures
it can be called with.
-/

namespace PatternServer.Vocabulary

set_option autoImplicit false

structure Parameter where
  label : String
  documentation : String
deriving Repr, DecidableEq, Inhabited

structure Signature where
  label : String
  /-- Its own documentation; without one the function's documentation stands in. -/
  documentation : Option String
  parameters : List Parameter
deriving Repr, DecidableEq, Inhabited

structure HostFunction where
  name : String
  detail : String
  documentation : String
  signatures : List Signature
deriving Repr, DecidableEq, Inhabited

end PatternServer.Vocabulary
