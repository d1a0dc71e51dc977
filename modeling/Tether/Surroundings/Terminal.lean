import Tether.Failure

/-! # The local terminal

The device behind the local input: its mode, and whether changing it fails.
-/

namespace Tether

/-- A terminal mode: raw or not, and a number that tells the other settings apart. -/
structure Mode where
  settings : Nat := 0
  raw : Bool := false
  deriving DecidableEq, Repr

structure Tty where
  isTty : Bool := false
  mode : Mode := {}
  rawFailure : Option String := none
  /-- Any other failure that keeps raw mode from being entered. -/
  obstacle : Option Failure := none
  restoreFailure : Option String := none
  deriving DecidableEq, Repr

/-- A holder of the terminal's mode: the mode as it was found, and whether raw mode was
entered and not yet left. -/
structure TerminalState where
  fd : Int := 0
  saved : Option Mode := none
  raw : Bool := false
  deriving DecidableEq, Repr

/-- Who is told when the window changes its size. -/
inductive ResizeHandler
  | previous
  | forwarding
  deriving DecidableEq, Repr

structure Signals where
  /-- Whether the system tells of window changes at all. -/
  supported : Bool := true
  /-- Whether the session runs where handlers may be set. -/
  mainThread : Bool := true
  handler : ResizeHandler := .previous
  deriving DecidableEq, Repr

end Tether
