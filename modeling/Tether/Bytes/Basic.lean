/-! # Byte strings

Bytes as they stand on the wire, with the big-endian words inside them.
-/

namespace Tether

abbrev Bytes := List UInt8

namespace Bytes

/-- The number that the bytes spell, most significant first. -/
def toNat (bs : Bytes) : Nat := bs.foldl (fun n b => n * 256 + b.toNat) 0

/-- The number that the bytes spell, least significant first. -/
def toNatReversed (bs : Bytes) : Nat := bs.foldr (fun b n => b.toNat + n * 256) 0

/-- The low `width` bytes of a number, most significant first. -/
def ofNat (width n : Nat) : Bytes :=
  match width with
  | 0 => []
  | w + 1 => ofNat w (n / 256) ++ [UInt8.ofNat (n % 256)]

/-- The low `width` bytes of a number, least significant first. -/
def ofNatReversed (width n : Nat) : Bytes :=
  match width with
  | 0 => []
  | w + 1 => UInt8.ofNat (n % 256) :: ofNatReversed w (n / 256)

/-- The first `count` pieces of `size` bytes each. -/
def chunks (size : Nat) : Nat → Bytes → List Bytes
  | 0, _ => []
  | count + 1, bs => bs.take size :: chunks size count (bs.drop size)

def bitLength (n : Nat) : Nat := if n = 0 then 0 else n.log2 + 1

def ofAscii (s : String) : Bytes := s.toList.map fun c => UInt8.ofNat c.toNat

@[simp] theorem length_ofNat (width n : Nat) : (ofNat width n).length = width := by
  induction width generalizing n with
  | zero => rfl
  | succ w ih => simp [ofNat, ih]

end Bytes

end Tether
