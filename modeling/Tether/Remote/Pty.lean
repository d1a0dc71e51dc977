import Tether.Bytes.Wire

/-! # Requests for a pseudo terminal

The message that asks for a terminal of a given kind and size, with the modes
it starts in.
-/

namespace Tether.Pty

def endOfModes : Nat := 0
def echo : Nat := 53
def inputSpeed : Nat := 128
def outputSpeed : Nat := 129

def channelRequest : UInt8 := 98

/-- A number that fits into `width` bytes. -/
def field? (width : Nat) (n : Int) : Option Bytes :=
  if 0 ≤ n ∧ n < (1 <<< (8 * width) : Nat) then some (Bytes.ofNat width n.toNat) else none

/-- A string, if its length fits into the field in front of it. -/
def string? (bs : Bytes) : Option Bytes := do
  return (← field? 4 bs.length) ++ bs

/-- The modes, each as an opcode and a value of four bytes. -/
def encodeModes? : List (Int × Int) → Option Bytes
  | [] => some [UInt8.ofNat endOfModes]
  | (op, value) :: r => do
    let op ← field? 1 op
    let value ← field? 4 value
    return op ++ value ++ (← encodeModes? r)

/-- The request on the channel of a number, if every number fits its field. -/
def request? (channel : Int) (term : String) (width height : Int) (modes : List (Int × Int)) :
    Option Bytes := do
  let modes ← encodeModes? modes
  let channel ← field? 4 channel
  let term ← string? (Utf8.encode term)
  let width ← field? 4 width
  let height ← field? 4 height
  let modes ← string? modes
  return channelRequest :: (channel ++ Wire.putText "pty-req" ++ [1] ++ term ++ width ++ height ++
    Wire.putWord 0 ++ Wire.putWord 0 ++ modes)

end Tether.Pty
