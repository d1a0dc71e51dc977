import Tether.Text.Significant

/-! # Time

The program adds, subtracts and compares times and prints spans of seconds. It
does so for any scale of time: doubles when it runs, exact numbers in reasoning.
-/

namespace Tether

/-- What the program does with points and spans of time. -/
class Time (τ : Type) extends Zero τ, Add τ, Sub τ, LE τ, LT τ where
  decidableLE : DecidableLE τ
  decidableLT : DecidableLT τ
  seconds : Nat → τ
  /-- A span in seconds, as messages give it. -/
  text : τ → String

attribute [reducible, instance] Time.decidableLE Time.decidableLT

instance : Time Float where
  decidableLE := inferInstance
  decidableLT := inferInstance
  seconds := Float.ofNat
  text := Text.significantFloat

end Tether
