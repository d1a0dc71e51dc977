import Tether.Bytes.Basic

/-! # Tagged values

The nested binary form of the older key files: a tag, a length and the contents.
There is one way to write each value, and everything else is refused with the
first thing that is wrong.
-/

namespace Tether.Keys.Der

inductive Family
  | universal | application | contextual | personal
  deriving DecidableEq, Repr

def Family.name : Family → String
  | .universal => "Universal"
  | .application => "Application"
  | .contextual => "ContextSpecific"
  | .personal => "Private"

structure Tag where
  family : Family
  /-- Whether the contents are values again. -/
  constructed : Bool
  number : Nat
  deriving DecidableEq, Repr

namespace Tag

def text (t : Tag) : String :=
  "Tag \x7b value: " ++ toString t.number ++ ", constructed: " ++
    (if t.constructed then "true" else "false") ++ ", class: " ++ t.family.name ++ " \x7d"

def integer : Tag := ⟨.universal, false, 2⟩
def bits : Tag := ⟨.universal, false, 3⟩
def octets : Tag := ⟨.universal, false, 4⟩
def null : Tag := ⟨.universal, false, 5⟩
def identifier : Tag := ⟨.universal, false, 6⟩
def sequence : Tag := ⟨.universal, true, 16⟩

/-- The tag around the value that is optional under a number. -/
def wrapper (n : Nat) : Tag := ⟨.contextual, true, n⟩

end Tag

inductive Fault
  | invalidValue
  | invalidTag
  | invalidLength
  | unexpectedTag (actual : Tag)
  | shortData (needed : Nat)
  | integerOverflow
  | extraData
  deriving DecidableEq, Repr

def Fault.text : Fault → String
  | .invalidValue => "invalid value"
  | .invalidTag => "invalid tag"
  | .invalidLength => "invalid length"
  | .unexpectedTag t => s!"unexpected tag (got {t.text})"
  | .shortData n => s!"short data (needed at least {n} additional bytes)"
  | .integerOverflow => "integer overflow"
  | .extraData => "extra data"

abbrev Scan := StateT Bytes (Except Fault)

def take (n : Nat) : Scan Bytes := fun bs =>
  if bs.length < n then .error (.shortData (n - bs.length)) else .ok (bs.take n, bs.drop n)

def byte : Scan UInt8 := do return (← take 1).headD 0

/-- The number of a long tag, in up to `fuel` groups of seven bits. -/
def longNumber : Nat → Nat → Scan Nat
  | 0, _ => throw .invalidTag
  | fuel + 1, acc => do
    match ← get with
    | [] => throw .invalidTag
    | b :: r =>
      set r
      let acc := acc * 128 + b.toNat % 128
      if b < 0x80 then return acc else longNumber fuel acc

def tag : Scan Tag := do
  let b ← byte
  let family : Family :=
    if b < 0x40 then .universal else if b < 0x80 then .application
    else if b < 0xc0 then .contextual else .personal
  let low := b.toNat % 32
  let number ← if low < 31 then pure low else longNumber 4 0
  if low = 31 ∧ number < 31 then throw .invalidTag
  return ⟨family, b.toNat / 32 % 2 = 1, number⟩

/-- A length: one byte, or the number of up to four bytes that are needed to hold it. -/
def length : Scan Nat := do
  let b ← byte
  if b < 0x80 then return b.toNat
  let count := b.toNat - 0x80
  if count = 0 ∨ count > 4 then throw .invalidLength
  let n := Bytes.toNat (← take count)
  if n < 0x80 ∨ n < 1 <<< (8 * (count - 1)) then throw .invalidLength
  return n

def value (t : Tag) : Scan Bytes := do
  let actual ← tag
  let contents ← take (← length)
  if actual = t then return contents else throw (.unexpectedTag actual)

def next? : Scan (Option Tag) := fun bs => .ok (((tag bs).toOption).map (·.1), bs)

def value? (t : Tag) : Scan (Option Bytes) := do
  if (← next?) = some t then return some (← value t) else return none

def whole {α : Type} (s : Scan α) (bs : Bytes) : Except Fault α := do
  let (a, r) ← s bs
  if r = [] then return a else throw .extraData

def inside {α : Type} (t : Tag) (s : Scan α) : Scan α := do
  let contents ← value t
  whole s contents

/-- The values inside the next one, if it has a given tag. -/
def inside? {α : Type} (t : Tag) (s : Scan α) : Scan (Option α) := do
  match ← value? t with
  | some contents => return some (← whole s contents)
  | none => return none

/-- A number that is not negative, in as few bytes as it needs. -/
def natural : Scan Nat := do
  let v ← value .integer
  match v with
  | [] => throw .invalidValue
  | b :: r =>
    if b ≥ 0x80 ∨ (b = 0 ∧ r ≠ [] ∧ r.headD 0 < 0x80) then throw .invalidValue
    return Bytes.toNat v

def small : Scan Nat := do
  let n ← natural
  if n < 256 then return n else throw .integerOverflow

/-- The bytes of a string of bits, whose first byte tells how many of the last are unused. -/
def bitBytes : Scan Bytes := do
  match ← value .bits with
  | [] => throw .invalidValue
  | unused :: r =>
    let last := (r.getLast?.getD 0).toNat
    if unused > 7 ∨ (r = [] ∧ unused > 0) ∨ last % (1 <<< unused.toNat) ≠ 0 then
      throw .invalidValue
    return r

/-- Whether some bytes are groups of seven bits that end within the bytes. -/
def isIdentifier (bs : Bytes) : Bool := bs.getLastD 0x80 < 0x80

def identifier : Scan Bytes := do
  let v ← value .identifier
  if isIdentifier v then return v else throw .invalidValue

def groups (acc : Nat) : Bytes → List Nat
  | [] => []
  | b :: r =>
    let acc := acc * 128 + b.toNat % 128
    if b < 0x80 then acc :: groups 0 r else groups acc r

def identifierText (bs : Bytes) : String :=
  let numbers := match groups 0 bs with
    | [] => []
    | n :: r => (if n < 80 then [n / 40, n % 40] else [2, n - 80]) ++ r
  String.intercalate "." (numbers.map toString)

end Tether.Keys.Der
