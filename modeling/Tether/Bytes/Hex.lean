import Tether.Bytes.Basic

/-! # Hexadecimal text

Two lowercase digits a byte.
-/

namespace Tether.Hex

def digit (n : Nat) : Char :=
  Char.ofNat (if n < 10 then 48 + n else 87 + n)

def value? (c : Char) : Option Nat :=
  let n := c.toNat
  if 48 ≤ n ∧ n ≤ 57 then some (n - 48)
  else if 97 ≤ n ∧ n ≤ 102 then some (n - 87)
  else if 65 ≤ n ∧ n ≤ 70 then some (n - 55)
  else none

def encodeChars (bs : Bytes) : List Char :=
  bs.flatMap fun b => [digit (b.toNat / 16), digit (b.toNat % 16)]

def encode (bs : Bytes) : String := String.ofList (encodeChars bs)

def decodeChars : List Char → Option Bytes
  | [] => some []
  | [_] => none
  | a :: b :: r => do
    let hi ← value? a
    let lo ← value? b
    return UInt8.ofNat (hi * 16 + lo) :: (← decodeChars r)

/-- The bytes of a text; a text of odd length or with a foreign character has none. -/
def decode (s : String) : Option Bytes := decodeChars s.toList

/-- A number in exactly `width` digits. -/
def fixed (width n : Nat) : List Char :=
  match width with
  | 0 => []
  | w + 1 => fixed w (n / 16) ++ [digit (n % 16)]

end Tether.Hex
