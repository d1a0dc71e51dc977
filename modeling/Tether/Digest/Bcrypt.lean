import Tether.Cipher.Blowfish
import Tether.Digest.Sha512

/-! # Keys from passphrases

A slow digest of a passphrase and a salt, and the key that many of them, one
over the other, are spread into.
-/

namespace Tether.Digest.Bcrypt

open Cipher

/-- How often the tables are filled, and how often the text is encrypted. -/
def cost : Nat := 64

def text : Bytes := Bytes.ofAscii "OxychromaticBlowfishSwatDynamite"

def encryptPairs (t : Blowfish.Tables) : List UInt32 → List UInt32
  | l :: r :: ws =>
    let (l, r) := Blowfish.encrypt t.keys t.boxes l r
    l :: r :: encryptPairs t ws
  | ws => ws

/-- The tables after `n` fillings with the salt and the passphrase in turn. -/
def refill (salt passphrase : Array UInt32) : Nat → Blowfish.Tables → Blowfish.Tables
  | 0, t => t
  | n + 1, t => refill salt passphrase n ((t.expand #[0] salt).expand #[0] passphrase)

/-- The digest of a passphrase and a salt, which are digests themselves. -/
def digest (passphrase salt : Bytes) : Bytes :=
  let p := Blowfish.words passphrase
  let s := Blowfish.words salt
  let t := refill s p cost (Blowfish.Tables.expand {} s p)
  (Nat.repeat (encryptPairs t) cost (Blowfish.words text).toList).flatMap fun w =>
    Bytes.ofNatReversed 4 w.toNat

/-- The sum without carry of `n` digests, each salted with the one before. -/
def sum (passphrase : Bytes) : Nat → Bytes → Bytes → Bytes
  | 0, _, acc => acc
  | n + 1, last, acc =>
    let d := digest passphrase (Sha512.digest last)
    sum passphrase n d (List.zipWith (· ^^^ ·) acc d)

/-- The part of a key with a number, counted from one. -/
def part (passphrase salt : Bytes) (rounds number : Nat) : Bytes :=
  sum passphrase rounds (salt ++ Bytes.ofNat 4 number) (List.replicate 32 0)

/-- The key of `size` bytes that a passphrase and a salt give. The parts take turns in
filling it. -/
def key (passphrase salt : Bytes) (size rounds : Nat) : Bytes :=
  let count := (size + 31) / 32
  let parts := (List.range count).map fun i =>
    part (Sha512.digest passphrase) salt rounds (i + 1)
  (List.range size).map fun i => (parts.getD (i % count) []).getD (i / count) 0

end Tether.Digest.Bcrypt
