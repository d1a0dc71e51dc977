import Tether.Bytes.Basic

/-! # Blowfish

A block cipher whose tables are filled by the key. They start out as the
fraction of the circle's number, and filling them is meant to be slow.
-/

namespace Tether.Cipher.Blowfish

/-- The alternating series `t / n - t / x² / (n + 2) + …`, cut off after `fuel` terms. -/
def series (square : Nat) : Nat → Nat → Nat → Nat
  | 0, _, _ => 0
  | fuel + 1, t, n => t / n - series square fuel (t / square) (n + 2)

/-- How many words the tables hold: one for each round and two more, and four boxes. -/
def roundWords : Nat := 18
def boxWords : Nat := 4 * 256

def fractionBits : Nat := 32 * (roundWords + boxWords)

/-- The fraction of the circle's number, as so many bits: sixteen times the angle of slope
one fifth less four times that of one part in 239. -/
def fraction : Nat :=
  let unit := 1 <<< (fractionBits + 64)
  let angle (x : Nat) := series (x * x) (fractionBits / 4) (unit / x) 1
  (16 * angle 5 - 4 * angle 239 - 3 * unit) >>> 64

def fractionWord (i : Nat) : UInt32 :=
  UInt32.ofNat ((fraction >>> (fractionBits - 32 * (i + 1))) % (1 <<< 32))

def initialKeys : Array UInt32 := ((List.range roundWords).map fractionWord).toArray

def initialBoxes : Array UInt32 :=
  ((List.range boxWords).map fun i => fractionWord (roundWords + i)).toArray

/-- The tables: the keys of the rounds, and the four boxes one after the other. -/
structure Tables where
  keys : Array UInt32 := initialKeys
  boxes : Array UInt32 := initialBoxes

/-- What a round adds to one half, given the other. -/
@[inline] def mixed (boxes : Array UInt32) (x : UInt32) : UInt32 :=
  ((boxes.getD (x >>> 24).toNat 0 + boxes.getD (256 + (x >>> 16 &&& 0xff).toNat) 0) ^^^
    boxes.getD (512 + (x >>> 8 &&& 0xff).toNat) 0) + boxes.getD (768 + (x &&& 0xff).toNat) 0

/-- Runs two halves through `n` rounds from the key at `i` on. -/
def rounds (keys boxes : Array UInt32) : Nat → Nat → UInt32 → UInt32 → UInt32 × UInt32
  | 0, i, l, r => (r ^^^ keys.getD (i + 1) 0, l ^^^ keys.getD i 0)
  | n + 1, i, l, r =>
    let l := l ^^^ keys.getD i 0
    rounds keys boxes n (i + 1) (r ^^^ mixed boxes l) l

def encrypt (keys boxes : Array UInt32) (l r : UInt32) : UInt32 × UInt32 :=
  rounds keys boxes 16 0 l r

/-- The words of which the tables are filled: those of a salt are taken in turn. -/
@[inline] def saltWord (salt : Array UInt32) (i : Nat) : UInt32 := salt.getD (i % salt.size) 0

/-- Fills the round keys from place `i` on, two words for each of `n` steps. -/
def fillKeys (salt boxes : Array UInt32) : Nat → Nat → Array UInt32 → UInt32 → UInt32 →
    Array UInt32 × UInt32 × UInt32
  | 0, _, keys, l, r => (keys, l, r)
  | n + 1, i, keys, l, r =>
    let (l, r) := encrypt keys boxes (l ^^^ saltWord salt i) (r ^^^ saltWord salt (i + 1))
    fillKeys salt boxes n (i + 2) ((keys.setIfInBounds i l).setIfInBounds (i + 1) r) l r

/-- Fills the boxes from place `i` on, two words for each of `n` steps. -/
def fillBoxes (salt keys : Array UInt32) : Nat → Nat → Array UInt32 → UInt32 → UInt32 →
    Array UInt32
  | 0, _, boxes, _, _ => boxes
  | n + 1, i, boxes, l, r =>
    let (l, r) := encrypt keys boxes (l ^^^ saltWord salt (roundWords + i))
      (r ^^^ saltWord salt (roundWords + i + 1))
    fillBoxes salt keys n (i + 2) ((boxes.setIfInBounds i l).setIfInBounds (i + 1) r) l r

/-- Fills the tables anew from a key and a salt, which are both repeated as needed. -/
def Tables.expand (t : Tables) (salt key : Array UInt32) : Tables :=
  let keys := (List.range roundWords).foldl
    (fun ks i => ks.modify i (· ^^^ saltWord key i)) t.keys
  let (keys, l, r) := fillKeys salt t.boxes (roundWords / 2) 0 keys 0 0
  ⟨keys, fillBoxes salt keys (boxWords / 2) 0 t.boxes l r⟩

def words (bs : Bytes) : Array UInt32 :=
  ((Bytes.chunks 4 (bs.length / 4) bs).map fun w => UInt32.ofNat (Bytes.toNat w)).toArray

end Tether.Cipher.Blowfish
