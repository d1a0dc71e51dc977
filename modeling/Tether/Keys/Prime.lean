import Tether.Curve.Modular

/-! # Prime numbers

Telling primes from other numbers by how powers behave modulo them. A prime is
always told; another number passes only if it deceives every base.
-/

namespace Tether.Keys.Prime

open Curve

/-- The bases of the test, which are prime themselves. -/
def bases : List Nat :=
  [2, 3, 5, 7, 11, 13, 17, 19, 23, 29, 31, 37, 41, 43, 47, 53, 59, 61, 67, 71]

/-- How often two divides a number, at most `fuel` times. -/
def twos : Nat → Nat → Nat
  | 0, _ => 0
  | fuel + 1, n => if n % 2 = 0 then twos fuel (n / 2) + 1 else 0

/-- Whether `n - 1` is among a power and its first `count` repeated squares. -/
def reaches (n : Nat) : Nat → Nat → Bool
  | 0, _ => false
  | count + 1, x => x == n - 1 || reaches n count (x * x % n)

/-- Whether the powers of `a` modulo `n` are as they are when `n` is prime. -/
def passes (n a : Nat) : Bool :=
  let s := twos (n.log2 + 1) (n - 1)
  let x := powMod n a ((n - 1) >>> s)
  x == 1 || reaches n s x

def isPrime (n : Nat) : Bool :=
  bases.contains n ||
    (n > 1 && bases.all (fun b => n % b != 0) && bases.all (passes n))

end Tether.Keys.Prime
