import Mathlib.Algebra.Group.Nat.Defs
import PatternServer.Number.Double

/-!
# Whole numbers beyond the doubles

A whole number has a nearest double unless it is so large that it rounds up to a power of two which
the format no longer has.
-/

namespace PatternServer.Number

set_option autoImplicit false

namespace Double

section
-- The power of two that is half a unit in the last place of the greatest doubles. It is a variable
-- because the number `2 ^ 970` is not to be computed.
variable {p : Nat} (hp : p = 970)
include hp

end

end Double

end PatternServer.Number
