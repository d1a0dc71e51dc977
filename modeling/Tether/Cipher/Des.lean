import Tether.Cipher.Mode

/-! # Triple DES

The block cipher that protects the oldest key files. Blocks, halves and keys
are numbers of a known width whose bits are counted from the highest, from one.
-/

namespace Tether.Cipher.Des

/-- The bits of a number of some width that a table picks, in the order of the table. -/
def pick (width : Nat) (table : List Nat) (n : Nat) : Nat :=
  table.foldl (fun acc i => acc * 2 + (n >>> (width - i)) % 2) 0

/-- Every eighth bit, from the last byte to the first. -/
def column (i : Nat) : List Nat := (List.range 8).map fun k => 56 + i - 8 * k

def initial : List Nat := [2, 4, 6, 8, 1, 3, 5, 7].flatMap column

def final : List Nat := (List.range 64).map fun i => initial.idxOf (i + 1) + 1

/-- The six bits at each group of four, the neighbours of the group included. -/
def expansion : List Nat :=
  (List.range 8).flatMap fun i => (List.range 6).map fun k => (4 * i + k + 31) % 32 + 1

def permutation : List Nat :=
  [16, 7, 20, 21, 29, 12, 28, 17, 1, 15, 23, 26, 5, 18, 31, 10,
    2, 8, 24, 14, 32, 27, 3, 9, 19, 13, 30, 6, 22, 11, 4, 25]

/-- The bits of a key that count, in two halves. -/
def leftChoice : List Nat := ([1, 2, 3, 4].flatMap column).take 28
def rightChoice : List Nat := [7, 6, 5].flatMap column ++ (column 4).drop 4

/-- The bits of both halves that make a round key. -/
def roundChoice : List Nat :=
  [14, 17, 11, 24, 1, 5, 3, 28, 15, 6, 21, 10, 23, 19, 12, 4, 26, 8, 16, 7, 27, 20, 13, 2,
    41, 52, 31, 37, 47, 55, 30, 40, 51, 45, 33, 48, 44, 49, 39, 56, 34, 53, 46, 42, 50, 36,
    29, 32]

def turns : List Nat := [1, 1, 2, 2, 2, 2, 2, 2, 1, 2, 2, 2, 2, 2, 2, 1]

/-- The substitutions of six bits by four: four rows of sixteen digits for each group. -/
def substitutions : List (List Nat) := [
  [0xe4d12fb83a6c5907, 0x0f74e2d1a6cb9538, 0x41e8d62bfc973a50, 0xfc8249175b3ea06d],
  [0xf18e6b34972dc05a, 0x3d47f28ec01a69b5, 0x0e7ba4d158c6932f, 0xd8a13f42b67c05e9],
  [0xa09e63f51dc7b428, 0xd709346a285ecbf1, 0xd6498f30b12c5ae7, 0x1ad069874fe3b52c],
  [0x7de3069a1285bc4f, 0xd8b56f03472c1ae9, 0xa690cb7df13e5284, 0x3f06a1d8945bc72e],
  [0x2c417ab6853fd0e9, 0xeb2c47d150fa3986, 0x421bad78f9c5630e, 0xb8c71e2d6f09a453],
  [0xc1af92680d34e75b, 0xaf427c9561de0b38, 0x9ef528c3704a1db6, 0x432c95fabe17608d],
  [0x4b2ef08d3c975a61, 0xd0b7491ae35c2f86, 0x14bdc37eaf680592, 0x6bd814a7950fe23c],
  [0xd2846fb1a93e50c7, 0x1fd8a374c56b0e92, 0x7b419ce206adf358, 0x21e74a8dfc90356b]]

/-- The substitution of six bits: the outer two choose the row, the inner four the digit. -/
def substitute (rows : List Nat) (six : Nat) : Nat :=
  (rows.getD (six / 32 * 2 + six % 2) 0 >>> (4 * (15 - six / 2 % 16))) % 16

def turn (n by_ : Nat) : Nat := (n <<< by_) % (1 <<< 28) + (n >>> (28 - by_))

def roundKeysFrom (l r : Nat) : List Nat → List Nat
  | [] => []
  | t :: ts =>
    let l := turn l t
    let r := turn r t
    pick 56 roundChoice ((l <<< 28) + r) :: roundKeysFrom l r ts

def roundKeys (key : Bytes) : List Nat :=
  let n := Bytes.toNat key
  roundKeysFrom (pick 64 leftChoice n) (pick 64 rightChoice n) turns

/-- What a round adds to one half, given the other. -/
def mixed (half key : Nat) : Nat :=
  let wide := pick 32 expansion half ^^^ key
  let digits := substitutions.zipIdx.map fun (rows, i) =>
    substitute rows ((wide >>> (6 * (7 - i))) % 64)
  pick 32 permutation (digits.foldl (fun acc d => acc * 16 + d) 0)

/-- Runs one block through the rounds of some keys; the keys from the last to the first undo
what they do from the first to the last. -/
def block (keys : List Nat) (b : Bytes) : Bytes :=
  let n := pick 64 initial (Bytes.toNat b)
  let (l, r) := keys.foldl (fun (l, r) k => (r, l ^^^ mixed r k)) (n >>> 32, n % (1 <<< 32))
  Bytes.ofNat 8 (pick 64 final ((r <<< 32) + l))

/-- The cipher under three keys of eight bytes each. -/
def triple (key : Bytes) : BlockCipher :=
  let k₁ := roundKeys (key.take 8)
  let k₂ := roundKeys ((key.drop 8).take 8)
  let k₃ := roundKeys (key.drop 16)
  { size := 8
    encrypt := fun b => block k₃ (block k₂.reverse (block k₁ b))
    decrypt := fun b => block k₁.reverse (block k₂ (block k₃.reverse b)) }

end Tether.Cipher.Des
