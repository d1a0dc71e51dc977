import Tether.Proofs.Act.Change
import Tether.Terminal.Mode

/-! # The footprint of the terminal's mode

Asking for the mode and entering raw mode do not depend on whether the mode can
be put back later.
-/

namespace Tether

open Act Change

variable {τ : Type}

/-- Agreement on the terminal, but for whether its mode can be put back. -/
structure TerminalView (s t : Surroundings τ) : Prop where
  isTty : s.tty.isTty = t.tty.isTty
  mode : s.tty.mode = t.tty.mode
  rawFailure : s.tty.rawFailure = t.tty.rawFailure
  obstacle : s.tty.obstacle = t.tty.obstacle
  terminal : s.terminal = t.terminal

theorem TerminalView.refl (s : Surroundings τ) : TerminalView s s := ⟨rfl, rfl, rfl, rfl, rfl⟩

inductive Change.OfEntry : Change τ → Prop
  | getMode (fd : Int) : OfEntry (.event (.getMode fd))
  | setRaw (fd : Int) : OfEntry (.event (.setRaw fd))
  | holder (st : TerminalState) : OfEntry (.holder st)
  | device (m : Mode) : OfEntry (.device m)

structure RestoreView (s t : Surroundings τ) : Prop where
  terminal : s.terminal = t.terminal
  restoreFailure : s.tty.restoreFailure = t.tty.restoreFailure

inductive Change.OfRestore : Change τ → Prop
  | holder (st : TerminalState) : OfRestore (.holder st)
  | putMode (fd : Int) (mode : Mode) : OfRestore (.event (.putMode fd mode))
  | device (m : Mode) : OfRestore (.device m)
  | log (level : Level) (text : String) : OfRestore (.log Terminal.loggerName level text)

namespace Terminal

theorem capture_within : Within TerminalView OfEntry (capture : Act τ (Option Mode)) := by
  have hsaved : Within TerminalView OfEntry (do return (← get).terminal.saved : Act τ _) :=
    .get (fun _ => .pure _) fun s t h => by rw [h.terminal]
  refine .get (fun s => ?_) fun s t h => by rw [h.terminal, h.isTty]
  dsimp only
  split
  · refine (Within.emit (.getMode _)).bind fun _ => Within.bind ?_ fun _ => hsaved
    refine .modify_of (fun s => .holder { s.terminal with saved := some s.tty.mode })
      (fun _ => rfl) (fun _ => .holder _) fun s t h => by rw [h.terminal, h.mode]
  · exact hsaved

theorem enterRaw_within : Within TerminalView OfEntry (enterRaw : Act τ Unit) := by
  refine capture_within.bind fun mode => ?_
  split
  · refine .get (fun s => ?_) fun s t h => by
      rw [h.terminal, h.obstacle, h.rawFailure]
    refine (Within.emit (.setRaw _)).bind fun _ => (Within.failIf _).bind fun _ => ?_
    split
    · exact .throw _
    · intro R hR s t hst
      have hdevice := hR.keeps (.device { s.tty.mode with raw := true }) hst
      have hholder := hR.keeps (.holder { s.terminal with raw := true }) hdevice
      refine ⟨rfl, ?_⟩
      rwa [show (Change.holder { s.terminal with raw := true }).apply
        ((Change.device { s.tty.mode with raw := true }).apply t) =
          { t with
            tty := { t.tty with mode := { t.tty.mode with raw := true } }
            terminal := { t.terminal with raw := true } } by
        rw [(hR.sees hst).terminal, (hR.sees hst).mode]; rfl] at hholder
  · exact .pure _

theorem restore_within : Within RestoreView OfRestore (restore : Act τ Unit) := by
  refine .get (fun s => ?_) fun s t h => by rw [h.terminal, h.restoreFailure]
  split
  · split
    · exact .pure _
    · have hleave : Within RestoreView OfRestore (modify fun s => { s with
          terminal := { s.terminal with raw := false } } : Act τ Unit) := by
        refine .modify_of (fun s => .holder { s.terminal with raw := false }) (fun _ => rfl)
          (fun _ => .holder _) fun s t h => by rw [h.terminal]
      refine hleave.bind fun _ => (Within.emit (.putMode _ _)).bind fun _ => ?_
      split
      · exact .log (.log _ _)
      · exact .change (.device _) (.device _)
  · exact .pure _

end Terminal

end Tether
