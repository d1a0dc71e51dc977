import Tether.Bytes.Basic
import Tether.Curve.Modular

/-! # The curves over primes

Points of the three curves `y² = x³ - 3x + b` that ECDSA keys live on, how they
are written, and their multiples.
-/

namespace Tether.Curve

inductive Nist
  | p256 | p384 | p521
  deriving DecidableEq, Repr

namespace Nist

def all : List Nist := [.p256, .p384, .p521]

def bits : Nist → Nat
  | .p256 => 256
  | .p384 => 384
  | .p521 => 521

def name (c : Nist) : String := s!"nistp{c.bits}"

def size (c : Nist) : Nat := (c.bits + 7) / 8

def prime : Nist → Nat
  | .p256 => (1 <<< 256) - (1 <<< 224) + (1 <<< 192) + (1 <<< 96) - 1
  | .p384 => (1 <<< 384) - (1 <<< 128) - (1 <<< 96) + (1 <<< 32) - 1
  | .p521 => (1 <<< 521) - 1

def coefficient : Nist → Nat
  | .p256 => 0x5ac635d8aa3a93e7b3ebbd55769886bc651d06b0cc53b0f63bce3c3e27d2604b
  | .p384 =>
    0xb3312fa7e23ee7e4988e056be3f82d19181d9c6efe8141120314088f5013875ac656398d8a2ed19d2a85c8edd3ec2aef
  | .p521 =>
    0x51953eb9618e1c9a1f929a21a0b68540eea2da725b99b315f3b8b489918ef109e156193951ec7e937b1652c0bd3bb1bf073573df883d2c34f1ef451fd46b503f00

def base : Nist → Nat × Nat
  | .p256 =>
    (0x6b17d1f2e12c4247f8bce6e563a440f277037d812deb33a0f4a13945d898c296,
      0x4fe342e2fe1a7f9b8ee7eb4a7c0f9e162bce33576b315ececbb6406837bf51f5)
  | .p384 =>
    (0xaa87ca22be8b05378eb1c71ef320ad746e1d3b628ba79b9859f741e082542a385502f25dbf55296c3a545e3872760ab7,
      0x3617de4a96262c6f5d9e98bf9292dc29f8f41dbd289a147ce9da3113b5f0b8c00a60b1ce1d7e819d7a431d7c90ea0e5f)
  | .p521 =>
    (0xc6858e06b70404e9cd9e3ecb662395b4429c648139053fb521f828af606b4d3dbaa14b5e77efe75928fe1dc127a2ffa8de3348b3c1856a429bf97e7e31c2e5bd66,
      0x11839296a789a3bc0045c8a5fb42c7d1bd998f54449579b446817afbd17273e662c97ee72995ef42640c550b9013fad0761353c7086a272c24088be94769fd16650)

def order : Nist → Nat
  | .p256 => 0xffffffff00000000ffffffffffffffffbce6faada7179e84f3b9cac2fc632551
  | .p384 =>
    0xffffffffffffffffffffffffffffffffffffffffffffffffc7634d81f4372ddf581a0db248b0a77aecec196accc52973
  | .p521 =>
    0x1fffffffffffffffffffffffffffffffffffffffffffffffffffffffffffffffffa51868783bf2f966b7fcc0148f709a5d03bb5c9b8899c47aebb6fb71e91386409

/-- The right-hand side of the curve's equation. -/
def rhs (c : Nist) (x : Nat) : Nat :=
  (x * x * x + (c.prime - 3) * x + c.coefficient) % c.prime

def onCurve (c : Nist) (x y : Nat) : Bool :=
  x < c.prime && y < c.prime && y * y % c.prime == c.rhs x

/-- Reads a point, in full or as one coordinate and the parity of the other. -/
def point? (c : Nist) (bs : Bytes) : Option (Nat × Nat) :=
  match bs with
  | [] => none
  | kind :: r =>
    let x := Bytes.toNat (r.take c.size)
    if kind = 4 ∧ r.length = 2 * c.size then
      let y := Bytes.toNat (r.drop c.size)
      if c.onCurve x y then some (x, y) else none
    else if (kind = 2 ∨ kind = 3) ∧ r.length = c.size ∧ x < c.prime then
      match sqrtMod? c.prime (c.rhs x) with
      | none => none
      | some y =>
        if y % 2 = kind.toNat % 2 then some (x, y)
        else if y = 0 then none else some (x, c.prime - y)
    else none

/-- Reads a point that may also be written in full with the parity of its second coordinate
in front. -/
def anyPoint? (c : Nist) (bs : Bytes) : Option (Nat × Nat) :=
  match bs with
  | 6 :: r => (c.point? (4 :: r)).filter fun p => p.2 % 2 = 0
  | 7 :: r => (c.point? (4 :: r)).filter fun p => p.2 % 2 = 1
  | bs => c.point? bs

def pointBytes (c : Nist) (x y : Nat) : Bytes :=
  4 :: (Bytes.ofNat c.size x ++ Bytes.ofNat c.size y)

/-- The sum of two points; `none` is the neutral one. -/
def add (c : Nist) : Option (Nat × Nat) → Option (Nat × Nat) → Option (Nat × Nat)
  | none, q => q
  | p, none => p
  | some (x₁, y₁), some (x₂, y₂) =>
    let p := c.prime
    if x₁ = x₂ ∧ (y₁ + y₂) % p = 0 then none
    else
      let slope :=
        if x₁ = x₂ then (3 * x₁ * x₁ + (p - 3)) * inverseMod p (2 * y₁ % p) % p
        else subMod p y₂ y₁ * inverseMod p (subMod p x₂ x₁) % p
      let x := subMod p (slope * slope % p) ((x₁ + x₂) % p)
      some (x, subMod p (slope * subMod p x₁ x % p) y₁)

/-- The sum of `acc` and the `k`-fold of a point. -/
def multipleFrom (c : Nist) (acc q : Option (Nat × Nat)) (k : Nat) : Option (Nat × Nat) :=
  if h : k = 0 then acc
  else multipleFrom c (if k % 2 = 1 then c.add acc q else acc) (c.add q q) (k / 2)
termination_by k
decreasing_by omega

/-- The public point of a secret number, which must be positive and below the order. -/
def publicPoint? (c : Nist) (secret : Nat) : Option (Nat × Nat) :=
  if 0 < secret ∧ secret < c.order then c.multipleFrom none (some c.base) secret else none

end Nist

end Tether.Curve
