import Tether.Bytes.Basic
import Tether.Curve.Modular
import Tether.Digest.Sha512

/-! # The twisted Edwards curve

The public key of an Ed25519 seed.
-/

namespace Tether.Curve.Edwards

def prime : Nat := (1 <<< 255) - 19

/-- The coefficient of the curve's equation `y² - x² = 1 + d x² y²`. -/
def coefficient : Nat := subMod prime 0 (121665 * inverseMod prime 121666 % prime)

/-- A point in extended coordinates: `x = X / Z`, `y = Y / Z`, `x y = T / Z`. -/
structure Point where
  x : Nat
  y : Nat
  z : Nat
  t : Nat

def neutral : Point := ⟨0, 1, 1, 0⟩

def add (p q : Point) : Point :=
  let a := subMod prime p.y p.x * subMod prime q.y q.x % prime
  let b := (p.y + p.x) * (q.y + q.x) % prime
  let c := 2 * p.t * q.t * coefficient % prime
  let d := 2 * p.z * q.z % prime
  let e := subMod prime b a
  let f := subMod prime d c
  let g := (d + c) % prime
  let h := (b + a) % prime
  ⟨e * f % prime, g * h % prime, f * g % prime, e * h % prime⟩

def base : Point :=
  let x := 0x216936d3cd6e53fec0a4e231fdd6dc5c692cc7609525a7b2c9562d608f25d51a
  let y := 0x6666666666666666666666666666666666666666666666666666666666666658
  ⟨x, y, 1, x * y % prime⟩

/-- The sum of `acc` and the `k`-fold of a point. -/
def multipleFrom (acc q : Point) (k : Nat) : Point :=
  if h : k = 0 then acc
  else multipleFrom (if k % 2 = 1 then add acc q else acc) (add q q) (k / 2)
termination_by k
decreasing_by omega

def Point.bytes (p : Point) : Bytes :=
  let i := inverseMod prime p.z
  let x := p.x * i % prime
  let y := p.y * i % prime
  Bytes.ofNatReversed 32 (y + (x % 2) <<< 255)

/-- The secret number of a seed: its digest's first half, with the highest bit set and the
three lowest ones clear. -/
def secretOf (seed : Bytes) : Nat :=
  let n := Bytes.toNatReversed ((Digest.Sha512.digest seed).take 32)
  n % (1 <<< 254) / 8 * 8 + (1 <<< 254)

def publicKey (seed : Bytes) : Bytes := (multipleFrom neutral base (secretOf seed)).bytes

end Tether.Curve.Edwards
