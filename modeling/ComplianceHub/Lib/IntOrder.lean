import Mathlib.Algebra.Order.Ring.Int

/-!
# The order of the integers

A definition that compares integers, or values of `WithTop Int`, is compiled with the order found for them. Mathlib
also finds that order through the conditionally complete one, which does not compute; the instance here comes first.
-/

namespace ComplianceHub.Lib

instance (priority := 10000) intPreorder : Preorder Int := Int.instLinearOrder.toPreorder

end ComplianceHub.Lib
