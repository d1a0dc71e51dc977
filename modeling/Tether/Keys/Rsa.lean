import Tether.Keys.Prime
import Tether.Keys.Public

/-! # RSA private keys

The numbers of a private key, and whether they belong together. A key whose
parts are all written down is only asked whether they do; one whose remainders
are worked out from the rest is asked for the range of each number first.
-/

namespace Tether.Keys

structure RsaNumbers where
  n : Nat
  e : Nat
  d : Nat
  p : Nat
  q : Nat
  /-- The remainders of `d` by `p - 1` and by `q - 1`, and the inverse of `q` modulo `p`. -/
  dp : Nat
  dq : Nat
  inverse : Nat
  deriving DecidableEq, Repr

/-- What is wrong with the numbers of a private key. -/
inductive RsaFault
  | zeroModulus
  | smallModulus
  /-- The number of a name is no less than the modulus. -/
  | tooLarge (name : String)
  | exponentRange
  | even (name : String)
  | product
  | inconsistent
  deriving DecidableEq, Repr

def RsaFault.text : RsaFault → String
  | .zeroModulus => "integer modulo by zero"
  | .smallModulus => "modulus must be >= 3."
  | .tooLarge name => s!"{name} must be < modulus."
  | .exponentRange => "public_exponent must be >= 3 and < modulus."
  | .even name => s!"{name} must be odd."
  | .product => "p*q must equal modulus."
  | .inconsistent => "Invalid private key"

namespace RsaNumbers

def publicKey (k : RsaNumbers) : PublicKey := .rsa k.e k.n

/-- Whether the numbers are those of one key: two odd primes and their product, exponents
that undo each other, and the values that follow from them. -/
def consistent (k : RsaNumbers) : Bool :=
  k.e % 2 == 1 && k.e != 1 && k.p % 2 == 1 && k.q % 2 == 1 && k.p * k.q == k.n &&
    Prime.isPrime k.p && Prime.isPrime k.q &&
    k.d * k.e % (k.p - 1).lcm (k.q - 1) == 1 &&
    k.d % (k.p - 1) == k.dp && k.d % (k.q - 1) == k.dq &&
    k.inverse < k.p && k.q * k.inverse % k.p == 1

/-- The key, if its numbers belong together. -/
def check (k : RsaNumbers) : Except RsaFault RsaNumbers :=
  if k.consistent then .ok k else .error .inconsistent

/-- The remainder of `d` by one less than `p`. There is none by zero, and by one less than
zero it is zero. -/
def remainder (d p : Nat) : Except RsaFault Nat :=
  if p = 1 then .error .zeroModulus else .ok (if p = 0 then 0 else d % (p - 1))

def rangeFault? (k : RsaNumbers) : Option RsaFault :=
  if k.n < 3 then some .smallModulus
  else
    let parts := [("p", k.p), ("q", k.q), ("dmp1", k.dp), ("dmq1", k.dq), ("iqmp", k.inverse),
      ("private_exponent", k.d)]
    match parts.find? fun x => x.2 ≥ k.n with
    | some (name, _) => some (.tooLarge name)
    | none =>
      if k.e < 3 ∨ k.e ≥ k.n then some .exponentRange
      else match [("public_exponent", k.e), ("dmp1", k.dp), ("dmq1", k.dq)].find? fun x =>
          x.2 % 2 = 0 with
        | some (name, _) => some (.even name)
        | none => if k.p * k.q ≠ k.n then some .product else none

/-- The key of some numbers, whose remainders are worked out. -/
def complete (n e d inverse p q : Nat) : Except RsaFault RsaNumbers := do
  let k : RsaNumbers := { n, e, d, p, q, inverse, dp := ← remainder d p, dq := ← remainder d q }
  match k.rangeFault? with
  | some f => .error f
  | none => k.check

end RsaNumbers

end Tether.Keys
