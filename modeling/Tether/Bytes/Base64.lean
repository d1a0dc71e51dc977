import Tether.Bytes.Basic

/-! # Base64

Four characters for three bytes, with equals signs in place of what is missing
in the last group. `decodeStrict` takes the alphabet only; `decodeLoose` skips
everything foreign and stops at the first complete padding.
-/

namespace Tether.Base64

def value? (c : Char) : Option Nat :=
  let n := c.toNat
  if 65 ≤ n ∧ n ≤ 90 then some (n - 65)
  else if 97 ≤ n ∧ n ≤ 122 then some (n - 71)
  else if 48 ≤ n ∧ n ≤ 57 then some (n + 4)
  else if c = '+' then some 62
  else if c = '/' then some 63
  else none

def character (n : Nat) : Char :=
  Char.ofNat (if n < 26 then n + 65 else if n < 52 then n + 71 else if n < 62 then n - 4
    else if n = 62 then 43 else 47)

/-- The bytes of values, four at a time; the bits that fill no byte are dropped. -/
def bytesOf : List Nat → Bytes
  | a :: b :: c :: d :: r =>
    UInt8.ofNat (a * 4 + b / 16) :: UInt8.ofNat (b % 16 * 16 + c / 4) ::
      UInt8.ofNat (c % 4 * 64 + d) :: bytesOf r
  | [a, b, c] => [UInt8.ofNat (a * 4 + b / 16), UInt8.ofNat (b % 16 * 16 + c / 4)]
  | [a, b] => [UInt8.ofNat (a * 4 + b / 16)]
  | _ => []

/-- Whether `pads` equals signs may follow `count` characters. After complete groups any
number may, unless there is no group at all. -/
def paddingOk (count pads : Nat) : Bool :=
  match count % 4 with
  | 0 => count != 0 || pads == 0
  | 2 => pads == 2
  | 3 => pads == 1
  | _ => false

/-- Reads characters of the alphabet, padded as their number requires. -/
def decodeStrict (cs : List Char) : Option Bytes := do
  let body := cs.takeWhile (· ≠ '=')
  let pads := cs.drop body.length
  let values ← body.mapM value?
  if pads.all (· = '=') && paddingOk values.length pads.length then some (bytesOf values)
  else none

def encode : Bytes → List Char
  | a :: b :: c :: r =>
    character (a.toNat / 4) :: character (a.toNat % 4 * 16 + b.toNat / 16) ::
      character (b.toNat % 16 * 4 + c.toNat / 64) :: character (c.toNat % 64) :: encode r
  | [a, b] => [character (a.toNat / 4), character (a.toNat % 4 * 16 + b.toNat / 16),
      character (b.toNat % 16 * 4), '=']
  | [a] => [character (a.toNat / 4), character (a.toNat % 4 * 16), '=', '=']
  | [] => []

/-- Why a text has no loose reading: how many characters of the alphabet it holds. -/
structure Incomplete where
  characters : Nat
  deriving DecidableEq, Repr

def Incomplete.text (i : Incomplete) : String :=
  if i.characters % 4 = 1 then
    s!"Invalid base64-encoded string: number of data characters ({i.characters}) cannot be 1 " ++
      "more than a multiple of 4"
  else "Incorrect padding"

/-- The values up to the first padding that completes a group, and whether there is one,
after `count` values and the `pads` equals signs behind the last of them. -/
def looseValues (count pads : Nat) : List Char → List Nat × Bool
  | [] => ([], false)
  | c :: r =>
    if c = '=' then
      if count % 4 ≥ 2 then
        if count % 4 + pads + 1 ≥ 4 then ([], true) else looseValues count (pads + 1) r
      else looseValues count pads r
    else match value? c with
      | some v =>
        let (values, complete) := looseValues (count + 1) 0 r
        (v :: values, complete)
      | none => looseValues count pads r

def decodeLoose (cs : List Char) : Except Incomplete Bytes :=
  let (values, complete) := looseValues 0 0 cs
  if complete || values.length % 4 = 0 then .ok (bytesOf values)
  else .error ⟨values.length⟩

end Tether.Base64
