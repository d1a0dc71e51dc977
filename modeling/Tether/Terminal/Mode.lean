import Tether.Surroundings.Basic

/-! # The mode of the local terminal

The terminal is put into raw mode for a session and gets its own mode back
afterwards. Where the input is no terminal, nothing is done at all.
-/

namespace Tether.Terminal

variable {τ : Type}

def loggerName : String := "cpu.terminal"

/-- Remembers the mode as it is when first asked. -/
def capture : Act τ (Option Mode) := do
  let s ← get
  if s.terminal.saved.isNone && s.tty.isTty then
    Act.emit (.getMode s.terminal.fd)
    modify fun s => { s with terminal := { s.terminal with saved := some s.tty.mode } }
  return (← get).terminal.saved

/-- Enters raw mode, once the mode is remembered. -/
def enterRaw : Act τ Unit := do
  if (← capture).isSome then
    let s ← get
    Act.emit (.setRaw s.terminal.fd)
    Act.failIf s.tty.obstacle
    match s.tty.rawFailure with
    | some t => throw (.outside .system t)
    | none =>
      modify fun s => { s with
        tty := { s.tty with mode := { s.tty.mode with raw := true } }
        terminal := { s.terminal with raw := true } }

/-- How a failure to put a mode back is reported. -/
def restoreText (t : String) : String := s!"Restoring terminal mode: (5, {Text.quoted t})"

/-- Puts the remembered mode back if raw mode was entered. A failure is logged only. -/
def restore : Act τ Unit := do
  let s ← get
  if s.terminal.raw then
    match s.terminal.saved with
    | none => pure ()
    | some mode =>
      modify fun s => { s with terminal := { s.terminal with raw := false } }
      Act.emit (.putMode s.terminal.fd mode)
      match s.tty.restoreFailure with
      | some t => Act.log loggerName .warning (restoreText t)
      | none => modify fun s => { s with tty := { s.tty with mode := mode } }

def raw {α : Type} (a : Act τ α) : Act τ α := do
  enterRaw
  try a finally restore

end Tether.Terminal
