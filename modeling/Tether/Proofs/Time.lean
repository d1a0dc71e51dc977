import Mathlib.Algebra.Order.Group.Defs
import Mathlib.Algebra.Order.Group.Unbundled.Basic
import Mathlib.Algebra.Order.Ring.Rat
import Tether.Time

/-! # Exact time

Scales of time on which sums, differences and comparisons are exact. The
rational seconds are one.
-/

namespace Tether

/-- A scale of time whose arithmetic is that of an ordered group. -/
class ExactTime (τ : Type) extends Time τ, AddCommGroup τ, LinearOrder τ, IsOrderedAddMonoid τ

instance : ExactTime ℚ where
  seconds n := n
  text q := toString q
  __ := (inferInstance : AddCommGroup ℚ)
  __ := (inferInstance : LinearOrder ℚ)
  decidableLE := inferInstance
  decidableLT := inferInstance
  add_le_add_left _ _ h c := add_le_add_left h c

end Tether
