import Tether.Cipher.Mode

/-! # AES

The block cipher that protects most key files, in both directions.
-/

namespace Tether.Cipher.Aes

/-- Multiplication by `x` of polynomials modulo `x⁸ + x⁴ + x³ + x + 1`. -/
def double (b : UInt8) : UInt8 := if b ≥ 0x80 then (b <<< 1) ^^^ 0x1b else b <<< 1

/-- Multiplication of polynomials, the second factor being given by its low `n` bits. -/
def times (a b : UInt8) : Nat → UInt8
  | 0 => 0
  | n + 1 => (if b % 2 = 1 then a else 0) ^^^ times (double a) (b / 2) n

def multiply (a b : UInt8) : UInt8 := times a b 8

/-- The inverse of a polynomial; zero is its own. -/
def inverse (b : UInt8) : UInt8 :=
  ((List.range 256).map UInt8.ofNat).find? (fun c => multiply b c == 1) |>.getD 0

def rotl (b n : UInt8) : UInt8 := (b <<< n) ||| (b >>> (8 - n))

def substitute (b : UInt8) : UInt8 :=
  let i := inverse b
  i ^^^ rotl i 1 ^^^ rotl i 2 ^^^ rotl i 3 ^^^ rotl i 4 ^^^ 0x63

def substitution : Array UInt8 := ((List.range 256).map fun n => substitute (UInt8.ofNat n)).toArray

def inverseSubstitution : Array UInt8 :=
  (List.range 256).foldl
    (fun t n => t.setIfInBounds (substitution.getD n 0).toNat (UInt8.ofNat n))
    (Array.replicate 256 0)

def sub (b : UInt8) : UInt8 := substitution.getD b.toNat 0
def unsub (b : UInt8) : UInt8 := inverseSubstitution.getD b.toNat 0

/-- The next word of the key schedule; `size` is the length of the key in words. -/
def expand (size : Nat) (ws : Array Bytes) (i : Nat) : Array Bytes :=
  let last := ws.getD (i - 1) []
  let mixed :=
    if i % size = 0 then
      match last.map sub with
      | a :: r => xor (r ++ [a]) ((Nat.repeat double (i / size - 1) 1) :: [0, 0, 0])
      | [] => []
    else if size > 6 ∧ i % size = 4 then last.map sub
    else last
  ws.push (xor (ws.getD (i - size) []) mixed)

def roundKeys (key : Bytes) : List Bytes :=
  let size := key.length / 4
  let count := 4 * (size + 7)
  let ws := (List.range' size (count - size)).foldl (expand size) (Bytes.chunks 4 size key).toArray
  Bytes.chunks 16 (size + 7) ws.toList.flatten

/-- Undoes the shift of the rows; a block holds its columns one after the other. -/
def unshift (b : Bytes) : Bytes :=
  (List.range 16).map fun i => b.getD ((16 + i - 4 * (i % 4)) % 16) 0

def unmixColumn (c : Bytes) : Bytes :=
  (List.range 4).map fun i =>
    multiply (c.getD i 0) 14 ^^^ multiply (c.getD ((i + 1) % 4) 0) 11 ^^^
      multiply (c.getD ((i + 2) % 4) 0) 13 ^^^ multiply (c.getD ((i + 3) % 4) 0) 9

def unmix (b : Bytes) : Bytes := (Bytes.chunks 4 4 b).flatMap unmixColumn

/-- Undoes the rounds, given their keys from the last to the first. -/
def unround : Bytes → List Bytes → Bytes
  | b, [] => b
  | b, [k] => xor ((unshift b).map unsub) k
  | b, k :: ks => unround (unmix (xor ((unshift b).map unsub) k)) ks

def decryptBlock (keys : List Bytes) (b : Bytes) : Bytes :=
  match keys.reverse with
  | [] => b
  | k :: ks => unround (xor b k) ks

def shift (b : Bytes) : Bytes :=
  (List.range 16).map fun i => b.getD ((i + 4 * (i % 4)) % 16) 0

def mixColumn (c : Bytes) : Bytes :=
  (List.range 4).map fun i =>
    double (c.getD i 0) ^^^ multiply (c.getD ((i + 1) % 4) 0) 3 ^^^
      c.getD ((i + 2) % 4) 0 ^^^ c.getD ((i + 3) % 4) 0

def mix (b : Bytes) : Bytes := (Bytes.chunks 4 4 b).flatMap mixColumn

/-- Does the rounds, given their keys; the last one mixes nothing. -/
def rounds : Bytes → List Bytes → Bytes
  | b, [] => b
  | b, [k] => xor (shift (b.map sub)) k
  | b, k :: ks => rounds (xor (mix (shift (b.map sub))) k) ks

def encryptBlock (keys : List Bytes) (b : Bytes) : Bytes :=
  match keys with
  | [] => b
  | k :: ks => rounds (xor b k) ks

def cipher (key : Bytes) : BlockCipher :=
  let keys := roundKeys key
  ⟨16, encryptBlock keys, decryptBlock keys⟩

end Tether.Cipher.Aes
