import Tether.Bytes.Long
import Tether.Text.Utf8

/-! # Wire format

The fields that messages and key blobs are made of. Strings carry their length
in four bytes in front; integers are strings in two's complement. A reader that
runs past the end of a message goes on with zero bytes, within reason.
-/

namespace Tether.Wire

def fillLimit : Nat := 1048576

/-- Reads `n` bytes, with zeros for those that are missing. -/
def take (n : Nat) (bs : Bytes) : Bytes × Bytes :=
  if bs.length < n then
    (if n < fillLimit then bs ++ List.replicate (n - bs.length) 0 else bs, [])
  else (bs.take n, bs.drop n)

def word (bs : Bytes) : Nat × Bytes :=
  let (w, r) := take 4 bs
  (Bytes.toNat w, r)

def string (bs : Bytes) : Bytes × Bytes :=
  let (n, r) := word bs
  take n r

/-- Reads a string as text. The zeros that fill it up are characters too, and end a
sequence that is cut short. -/
def text (bs : Bytes) : Except Utf8.Malformed String × Bytes :=
  let (n, r) := word bs
  if r.length < n ∧ n < fillLimit then
    let missing := n - r.length
    let near := min 3 missing
    ((Utf8.decode (r ++ List.replicate near 0)).map fun cs =>
      String.ofList (cs ++ List.replicate (missing - near) '\x00'), [])
  else
    let (s, r) := take n r
    ((Utf8.decode s).map String.ofList, r)

def integer (bs : Bytes) : Int × Bytes :=
  let (s, r) := string bs
  (Bytes.toInt s, r)

def putWord (n : Nat) : Bytes := Bytes.ofNat 4 n

def putString (bs : Bytes) : Bytes := putWord bs.length ++ bs

def putText (s : String) : Bytes := putString (Utf8.encode s)

/-- Writes a natural number as an integer, in as few bytes as leave the sign clear. -/
def putNat (n : Nat) : Bytes :=
  putString (Bytes.ofNatByHalves (if n = 0 then 0 else Bytes.bitLength n / 8 + 1) n)

/-! Readers that refuse a field that is cut short. -/

def word? (bs : Bytes) : Option (Nat × Bytes) :=
  if bs.length < 4 then none else some (Bytes.toNat (bs.take 4), bs.drop 4)

/-- Reads a string whose length is there; its bytes may be cut short. -/
def string? (bs : Bytes) : Option (Bytes × Bytes) := do
  let (n, r) ← word? bs
  return (r.take n, r.drop n)

def natural? (bs : Bytes) : Option (Nat × Bytes) := do
  let (s, r) ← string? bs
  return (Bytes.toNat s, r)

end Tether.Wire
