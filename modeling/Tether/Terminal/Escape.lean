import Tether.Bytes.Basic

/-! # The escape sequence

A tilde right after a line end arms the escape; a point after it ends the input,
and any other byte lets the held tilde go with it.
-/

namespace Tether

inductive EscapeState
  | normal
  | afterNewline
  /-- A tilde is held back. -/
  | armed
  deriving DecidableEq, Repr

/-- The filter between the local input and the remote command. -/
structure Escape where
  state : EscapeState := .normal
  closed : Bool := false
  deriving DecidableEq, Repr

namespace Escape

def tilde : UInt8 := 0x7e
def dot : UInt8 := 0x2e

def isNewline (b : UInt8) : Bool := b == 0x0a || b == 0x0d

/-- The state after a byte, and the bytes that are let through; none if it ends the input. -/
def step (s : EscapeState) (b : UInt8) : Option (EscapeState × Bytes) :=
  match s with
  | .armed => if b = dot then none else some (.normal, [tilde, b])
  | .afterNewline =>
    if b = tilde then some (.armed, [])
    else some (if isNewline b then .afterNewline else .normal, [b])
  | .normal => some (if isNewline b then .afterNewline else .normal, [b])

/-- Filters input from a state. Nothing after the end is let through. -/
def run (s : EscapeState) : Bytes → Bytes × Escape
  | [] => ([], ⟨s, false⟩)
  | b :: r => match step s b with
    | none => ([], ⟨s, true⟩)
    | some (t, out) =>
      let (rest, e) := run t r
      (out ++ rest, e)

/-- Filters a chunk of input: the bytes to forward, and the filter after it. -/
def feed (e : Escape) (chunk : Bytes) : Bytes × Escape :=
  if e.closed then ([], e) else run e.state chunk

end Escape

end Tether
