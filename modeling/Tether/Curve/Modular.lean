/-! # Arithmetic modulo a prime

Powers by repeated squaring, and inverses and square roots from them.
-/

namespace Tether.Curve

/-- `acc * b ^ e` modulo `m`. -/
def powModFrom (m acc b e : Nat) : Nat :=
  if h : e = 0 then acc
  else powModFrom m (if e % 2 = 1 then acc * b % m else acc) (b * b % m) (e / 2)
termination_by e
decreasing_by omega

def powMod (m b e : Nat) : Nat := powModFrom m (1 % m) (b % m) e

def inverseMod (p a : Nat) : Nat := powMod p a (p - 2)

/-- The difference modulo `m` of numbers below it. -/
def subMod (m a b : Nat) : Nat := (a + (m - b)) % m

/-- A square root modulo a prime that is three more than a multiple of four. -/
def sqrtMod? (p a : Nat) : Option Nat :=
  let r := powMod p a ((p + 1) / 4)
  if r * r % p = a % p then some r else none

end Tether.Curve
