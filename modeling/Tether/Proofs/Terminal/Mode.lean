import Tether.Proofs.Act.Exec
import Tether.Terminal.Mode

/-! # The mode of the terminal

What asking for the mode, entering raw mode and putting the mode back come to.
-/

namespace Tether

open Act

variable {τ : Type}

namespace Surroundings

variable (s : Surroundings τ)

/-- The mode that is known of the terminal, once it was asked for. -/
def knownMode : Option Mode := s.terminal.saved <|> if s.tty.isTty then some s.tty.mode else none

def captured : Surroundings τ := (exec Terminal.capture s).2

def entersRaw : Bool :=
  s.knownMode.isSome && s.tty.obstacle.isNone && s.tty.rawFailure.isNone

def settingRaw : Surroundings τ :=
  { s.captured with events := s.captured.events ++ [.setRaw s.captured.terminal.fd] }

def enteredRaw : Surroundings τ := { s.settingRaw with
  tty := { s.settingRaw.tty with mode := { s.settingRaw.tty.mode with raw := true } }
  terminal := { s.settingRaw.terminal with raw := true } }

def leavingRaw (mode : Mode) : Surroundings τ := { s with
  terminal := { s.terminal with raw := false }
  events := s.events ++ [.putMode s.terminal.fd mode] }

def restored : Surroundings τ :=
  match s.terminal.raw, s.terminal.saved with
  | true, some mode => match s.tty.restoreFailure with
    | some text =>
      (s.leavingRaw mode).logged Terminal.loggerName .warning (Terminal.restoreText text)
    | none => { s.leavingRaw mode with tty := { s.tty with mode } }
  | _, _ => s

end Surroundings

/-- The call that puts a mode back, where raw mode was entered. -/
def TerminalState.putBack (st : TerminalState) : List (Event τ) :=
  match st.raw, st.saved with
  | true, some mode => [.putMode st.fd mode]
  | _, _ => []

namespace Terminal

theorem exec_capture (s : Surroundings τ) : exec capture s = (.ok s.knownMode, s.captured) := by
  refine Prod.ext ?_ rfl
  simp only [capture, exec_bind, exec_get, Surroundings.knownMode]
  rcases hs : s.terminal.saved with _ | mode
  · rcases ht : s.tty.isTty with _ | _
    · exact congrArg Except.ok hs
    · rfl
  · exact congrArg Except.ok hs

theorem exec_restore (s : Surroundings τ) : exec restore s = (.ok (), s.restored) := by
  simp only [restore, exec_bind, exec_get, Surroundings.restored]
  rcases s.terminal.raw with _ | _
  · rfl
  · rcases s.terminal.saved with _ | mode
    · rfl
    · rcases hr : s.tty.restoreFailure with _ | text
      · simp only [if_true, exec_bind, exec_modify, exec_emit, Surroundings.leavingRaw, hr]
      · simp only [if_true, exec_bind, exec_modify, exec_emit, exec_log]
        rfl

theorem restored_events (s : Surroundings τ) :
    s.restored.events = s.events ++ s.terminal.putBack := by
  rw [Surroundings.restored, TerminalState.putBack]
  split
  · split
    · simp [Surroundings.leavingRaw]
    · rfl
  · simp

theorem restored_of_putBack {s : Surroundings τ} (h : (s.terminal.putBack : List (Event τ)) = []) :
    s.restored = s := by
  rw [TerminalState.putBack] at h
  rw [Surroundings.restored]
  split
  · rename_i hraw hsaved
    simp [hraw, hsaved] at h
  · rfl

theorem restored_of_raw {s : Surroundings τ} {mode : Mode} (hraw : s.terminal.raw = true)
    (hsaved : s.terminal.saved = some mode) : s.restored =
      match s.tty.restoreFailure with
      | some text => (s.leavingRaw mode).logged loggerName .warning (restoreText text)
      | none => { s.leavingRaw mode with tty := { s.tty with mode } } := by
  rw [Surroundings.restored, hraw, hsaved]

theorem restored_putBack (s : Surroundings τ) :
    (s.restored.terminal.putBack : List (Event τ)) = [] := by
  rw [Surroundings.restored]
  split
  · split
    · simp [Surroundings.leavingRaw, TerminalState.putBack]
    · rfl
  · rename_i h
    rw [TerminalState.putBack]
    split
    · rename_i mode hraw hsaved
      exact (h mode hraw hsaved).elim
    · rfl

theorem restored_keeps {β : Type} (f : Surroundings τ → β)
    (hleave : ∀ s mode, f (Surroundings.leavingRaw s mode) = f s)
    (htty : ∀ s tty, f { s with tty } = f s)
    (hlog : ∀ s level text, f (Surroundings.logged s loggerName level text) = f s)
    (s : Surroundings τ) : f s.restored = f s := by
  rw [Surroundings.restored]
  split
  · split
    · rw [hlog, hleave]
    · exact (htty _ _).trans (hleave s _)
  · rfl

@[simp] theorem restored_connection (s : Surroundings τ) : s.restored.connection = s.connection :=
  restored_keeps _ (fun _ _ => rfl) (fun _ _ => rfl) (fun _ _ _ => by simp) s

@[simp] theorem restored_signals (s : Surroundings τ) : s.restored.signals = s.signals :=
  restored_keeps _ (fun _ _ => rfl) (fun _ _ => rfl) (fun _ _ _ => by simp) s

end Terminal

namespace Surroundings

variable (s : Surroundings τ)

theorem captured_eq : s.captured = { s with
    events := s.captured.events
    terminal := { s.terminal with saved := s.knownMode } } := by
  simp only [captured, Terminal.capture, exec_bind, exec_get, knownMode]
  rcases s with ⟨clock, events, log, threads, environment, window, tty, ⟨fd, _ | mode, raw⟩⟩
  · rcases tty with ⟨_ | _, mode⟩ <;> rfl
  · rfl

end Surroundings

theorem Terminal.exec_enterRaw (s : Surroundings τ) : exec enterRaw s =
    match s.knownMode, s.tty.obstacle, s.tty.rawFailure with
    | none, _, _ => (.ok (), s.captured)
    | some _, some f, _ => (.error f, s.settingRaw)
    | some _, none, some text => (.error (.outside .system text), s.settingRaw)
    | some _, none, none => (.ok (), s.enteredRaw) := by
  have htty : s.captured.tty = s.tty := by rw [s.captured_eq]
  rw [enterRaw, exec_bind, exec_capture]
  dsimp only
  cases s.knownMode with
  | none => rfl
  | some mode =>
    rw [← htty]
    simp only [Option.isSome_some, if_true, exec_bind, exec_get, exec_emit]
    cases s.captured.tty.obstacle with
    | some f => rfl
    | none => cases s.captured.tty.rawFailure <;> rfl

namespace Surroundings

variable (s : Surroundings τ)

theorem enterRaw_terminal : (exec Terminal.enterRaw s).2.terminal =
    { s.terminal with saved := s.knownMode, raw := s.terminal.raw || s.entersRaw } := by
  have hterminal : s.captured.terminal = { s.terminal with saved := s.knownMode } := by
    rw [captured_eq]
  rw [Terminal.exec_enterRaw, entersRaw]
  cases hk : s.knownMode with
  | none => simp [hterminal, hk]
  | some mode =>
    cases s.tty.obstacle with
    | some f => simp [settingRaw, hterminal, hk]
    | none => cases s.tty.rawFailure <;> simp [settingRaw, enteredRaw, hterminal, hk]

end Surroundings

end Tether
