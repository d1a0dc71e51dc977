import Tether.Bytes.Hex

/-! # UTF-8

Reading bytes as text. A malformed stretch is the longest start of a sequence
that could still have become well formed; `decodeLossy` puts one replacement
character in its place and `decode` reports the first one.
-/

namespace Tether.Utf8

/-- Why a stretch of bytes is not UTF-8. -/
inductive Defect
  | invalidStart
  | invalidContinuation
  | truncated
  deriving DecidableEq, Repr

def Defect.text : Defect → String
  | .invalidStart => "invalid start byte"
  | .invalidContinuation => "invalid continuation byte"
  | .truncated => "unexpected end of data"

/-- The sequence at the head of some bytes: its character, or its defect, and its length. -/
abbrev Head := Except Defect Char × Nat

def isContinuation (b : UInt8) : Bool := 0x80 ≤ b && b < 0xc0

/-- The six bits that a continuation byte carries. -/
def payload (b : UInt8) : Nat := b.toNat % 64

/-- Whether `c` may follow the start byte `b`; some starts admit fewer second bytes,
so that no character has two spellings and no surrogate has one. -/
def secondOk (b c : UInt8) : Bool :=
  isContinuation c &&
    (if b = 0xe0 then c ≥ 0xa0 else if b = 0xed then c < 0xa0
     else if b = 0xf0 then c ≥ 0x90 else if b = 0xf4 then c < 0x90 else true)

/-- The sequence that begins with the byte `b`. -/
def headOf (b : UInt8) (r : Bytes) : Head :=
  if b < 0x80 then (.ok (Char.ofNat b.toNat), 1)
  else if b < 0xc2 || b > 0xf4 then (.error .invalidStart, 1)
  else match r with
    | [] => (.error .truncated, 1)
    | c :: r =>
      if !secondOk b c then (.error .invalidContinuation, 1)
      else if b < 0xe0 then (.ok (Char.ofNat (b.toNat % 32 * 64 + payload c)), 2)
      else match r with
        | [] => (.error .truncated, 2)
        | d :: r =>
          if !isContinuation d then (.error .invalidContinuation, 2)
          else if b < 0xf0 then
            (.ok (Char.ofNat (b.toNat % 16 * 4096 + payload c * 64 + payload d)), 3)
          else match r with
            | [] => (.error .truncated, 3)
            | e :: _ =>
              if !isContinuation e then (.error .invalidContinuation, 3)
              else (.ok (Char.ofNat
                (b.toNat % 8 * 262144 + payload c * 4096 + payload d * 64 + payload e)), 4)

/-- Reads bytes with one sequence at most per unit of `fuel`. -/
def sequences : Nat → Bytes → List Head
  | 0, _ => []
  | _, [] => []
  | fuel + 1, b :: r =>
    let h := headOf b r
    h :: sequences fuel (r.drop (h.2 - 1))

/-- The text of some bytes, with a replacement character for each malformed stretch. -/
def decodeLossy (bs : Bytes) : List Char :=
  (sequences bs.length bs).map fun
    | (.ok c, _) => c
    | (.error _, _) => '\ufffd'

/-- A malformed stretch: where it starts, how long it is, its first byte and its defect. -/
structure Malformed where
  start : Nat
  length : Nat
  byte : UInt8
  defect : Defect
  deriving DecidableEq, Repr

def Malformed.text (m : Malformed) : String :=
  if m.length = 1 then
    let byte := String.ofList (Hex.fixed 2 m.byte.toNat)
    s!"'utf-8' codec can't decode byte 0x{byte} in position {m.start}: {m.defect.text}"
  else
    s!"'utf-8' codec can't decode bytes in position {m.start}-{m.start + m.length - 1}: " ++
      m.defect.text

/-- The place, the length and the defect of the first malformed stretch. -/
def firstDefect (start : Nat) : List Head → Option (Nat × Nat × Defect)
  | [] => none
  | (.ok _, n) :: r => firstDefect (start + n) r
  | (.error d, n) :: _ => some (start, n, d)

/-- The text of some bytes, or their first malformed stretch. -/
def decode (bs : Bytes) : Except Malformed (List Char) :=
  let hs := sequences bs.length bs
  match firstDefect 0 hs with
  | some (start, length, d) => .error ⟨start, length, bs.getD start 0, d⟩
  | none => .ok (hs.filterMap fun h => h.1.toOption)

/-- How many bytes of a file are read at a time. -/
def blockSize : Nat := 8192

def cutShort (bs : Bytes) : Nat :=
  match (sequences bs.length bs).getLast? with
  | some (.error .truncated, n) => n
  | _ => 0

/-- Reads a file block by block, after the bytes `left` of a sequence that the block before
cut short. A malformed stretch is placed within the bytes that were read with it. -/
def decodeBlocks (left : Bytes) : Bytes → Except Malformed (List Char)
  | [] => decode left
  | b :: r => do
    let block := left ++ (b :: r).take blockSize
    let whole := block.length - cutShort block
    let text ← decode (block.take whole)
    return text ++ (← decodeBlocks (block.drop whole) ((b :: r).drop blockSize))
termination_by bs => bs.length
decreasing_by
  simp only [List.length_drop, List.length_cons, blockSize]
  omega

def encodeChar (c : Char) : Bytes :=
  let n := c.toNat
  if n < 0x80 then [UInt8.ofNat n]
  else if n < 0x800 then [UInt8.ofNat (0xc0 + n / 64), UInt8.ofNat (0x80 + n % 64)]
  else if n < 0x10000 then
    [UInt8.ofNat (0xe0 + n / 4096), UInt8.ofNat (0x80 + n / 64 % 64), UInt8.ofNat (0x80 + n % 64)]
  else
    [UInt8.ofNat (0xf0 + n / 262144), UInt8.ofNat (0x80 + n / 4096 % 64),
      UInt8.ofNat (0x80 + n / 64 % 64), UInt8.ofNat (0x80 + n % 64)]

def encode (s : String) : Bytes := s.toList.flatMap encodeChar

end Tether.Utf8
