import Tether.Bytes.Basic

/-! # Modes of block ciphers

How the blocks of a message hang together: each one chained to the one before,
or each one covered by the encryption of a running count.
-/

namespace Tether.Cipher

structure BlockCipher where
  size : Nat
  encrypt : Bytes → Bytes
  decrypt : Bytes → Bytes

def xor (a b : Bytes) : Bytes := List.zipWith (· ^^^ ·) a b

namespace BlockCipher

/-- Decrypts blocks, each of which was chained to the one before. -/
def unchain (c : BlockCipher) : Bytes → List Bytes → Bytes
  | _, [] => []
  | before, b :: bs => xor (c.decrypt b) before ++ c.unchain b bs

def decryptChained (c : BlockCipher) (start data : Bytes) : Bytes :=
  c.unchain start (Bytes.chunks c.size (data.length / c.size) data)

def cover (c : BlockCipher) (count : Nat) : Nat → Bytes
  | 0 => []
  | n + 1 => c.encrypt (Bytes.ofNat c.size count) ++ c.cover (count + 1) n

/-- Covers or uncovers a message of any length, counting from a start value. -/
def applyCounted (c : BlockCipher) (start data : Bytes) : Bytes :=
  xor data (c.cover (Bytes.toNat start) (data.length / c.size + 1))

end BlockCipher

/-- Removes the padding: `n` bytes of value `n`, from one to the size of a block. -/
def unpad? (size : Nat) (data : Bytes) : Option Bytes :=
  let n := (data.getLast?.getD 0).toNat
  if 1 ≤ n ∧ n ≤ size ∧ n ≤ data.length ∧ (data.drop (data.length - n)).all (·.toNat = n) then
    some (data.take (data.length - n))
  else none

end Tether.Cipher
