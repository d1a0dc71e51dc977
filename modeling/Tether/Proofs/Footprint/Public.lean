import Tether.Proofs.Footprint.Connect
import Tether.Proofs.Footprint.Run
import Tether.Proofs.Footprint.Terminal

/-! # Public actions

What is public is everything but the record of calls, the answer of the random
source and the connections. Apart from drawing the nonce and checking connections
against it, a run looks at public things only.
-/

namespace Tether

open Act

variable {τ α : Type} {s t : Surroundings τ}

/-- Agreement on what is public. -/
def PublicView (s t : Surroundings τ) : Prop :=
  ∃ events random accepted arrivals, t = { s with
    events, random, accepted, connection := { s.connection with arrivals } }

namespace PublicView

/-- A change that is made on both sides makes no difference between them. -/
theorem apply (c : Change τ) (h : PublicView s t) : PublicView (c.apply s) (c.apply t) := by
  obtain ⟨events, random, accepted, arrivals, rfl⟩ := h
  cases c with
  | log logger level text =>
    refine ⟨events, random, accepted, arrivals, ?_⟩
    simp only [Change.apply, Surroundings.logged_def]
    split
    · split <;> rfl
    · rfl
  | _ => exact ⟨_, _, _, _, rfl⟩

theorem accept (p q : Peer τ) (h : PublicView s t) :
    PublicView ((Change.accept p).apply s) ((Change.accept q).apply t) := by
  obtain ⟨events, random, accepted, arrivals, rfl⟩ := h
  exact ⟨_, _, _, _, rfl⟩

theorem emit (e e' : Event τ) (h : PublicView s t) :
    PublicView ((Change.event e).apply s) ((Change.event e').apply t) := by
  obtain ⟨events, random, accepted, arrivals, rfl⟩ := h
  exact ⟨_, _, _, _, rfl⟩

theorem sessionView (h : PublicView s t) : SessionView s t := by
  obtain ⟨_, _, _, _, rfl⟩ := h
  exact { SessionView.refl s with }

theorem terminalView (h : PublicView s t) : TerminalView s t := by
  obtain ⟨_, _, _, _, rfl⟩ := h
  exact { TerminalView.refl s with }

theorem connectView (h : PublicView s t) : ConnectView s t := by
  obtain ⟨_, _, _, _, rfl⟩ := h
  exact ⟨rfl, rfl, rfl, rfl, rfl, rfl⟩

theorem restoreFailure (h : PublicView s t) : s.tty.restoreFailure = t.tty.restoreFailure := by
  obtain ⟨_, _, _, _, rfl⟩ := h
  rfl

theorem closeFailure (h : PublicView s t) : s.connection.close = t.connection.close := by
  obtain ⟨_, _, _, _, rfl⟩ := h
  rfl

end PublicView

def Act.IsPublic (a : Act τ α) : Prop := Within PublicView (fun _ => True) a

theorem Act.Within.isPublic {V : Surroundings τ → Surroundings τ → Prop} {C : Change τ → Prop}
    {a : Act τ α} (h : Within V C a) (hV : ∀ s t, PublicView s t → V s t) : IsPublic a :=
  h.mono hV fun _ _ => trivial

theorem Act.Within.ofSession {C : Change τ → Prop} {a : Act τ α} (h : Within SessionView C a) :
    IsPublic a :=
  h.isPublic fun _ _ => PublicView.sessionView

theorem Terminal.capture_isPublic : IsPublic (capture : Act τ (Option Mode)) :=
  capture_within.isPublic fun _ _ => PublicView.terminalView

theorem Terminal.enterRaw_isPublic : IsPublic (enterRaw : Act τ Unit) :=
  enterRaw_within.isPublic fun _ _ => PublicView.terminalView

theorem Terminal.restore_isPublic : IsPublic (restore : Act τ Unit) :=
  restore_within.isPublic fun _ _ h => ⟨h.terminalView.terminal, h.restoreFailure⟩

theorem Session.close_isPublic (session : Session) : IsPublic (session.close : Act τ Unit) :=
  (close_within (C := fun _ => True) trivial session).isPublic fun _ _ => PublicView.closeFailure

theorem Run.statusOf_isPublic (f : Failure) : IsPublic (statusOf f : Act τ Int) :=
  statusOf_within (fun _ => trivial) f

/-- The program's own way to connect looks at public things only. -/
theorem Program.connect_isPublic (env : Environment) (o : ClientOptions) :
    IsPublic ((means env).connect o) :=
  (connect_within env o).isPublic fun _ _ => PublicView.connectView

end Tether
