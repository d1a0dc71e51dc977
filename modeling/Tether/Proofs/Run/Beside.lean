import Tether.Proofs.Footprint.Connect
import Tether.Proofs.Footprint.Run
import Tether.Proofs.Footprint.Terminal
import Tether.Proofs.Terminal.Relay

/-! # What goes on beside a session

Two runs may differ in what happens on the listener. What the gate and the file-share
server do there leaves the rest of the surroundings alike, and so does everything that
both runs do.
-/

namespace Tether

open Act Change

variable {τ α : Type}

namespace Change

/-- What happens on the listener's side: what the gate and the server do, how the gate ends, and
giving the port back. -/
inductive OfListener : Change τ → Prop
  | gate {c : Change τ} (h : OfGate c) : OfListener c
  | release {c : Change τ} (h : OfRelease c) : OfListener c
  | ended (f : Failure) : OfListener (.thread "cpu-namespace" f)

abbrev LeavesStreams : Change τ → Prop := OffStreams fun _ => True

theorem OfListener.leavesStreams {c : Change τ} (h : OfListener c) : LeavesStreams c := by
  cases h with
  | gate h =>
    cases h with
    | reading h => cases h <;> exact trivial
    | _ => exact trivial
  | release h => cases h <;> exact trivial
  | ended => exact trivial

end Change

/-- What a listener has to do with: how the remote side deals with it, the time that passes on it,
and the records of what is done there. -/
structure ListenerSide (τ : Type) where
  clock : τ
  arrivals : List (Arrival τ)
  cancel : Option Failure
  forwardings : List Forwarding
  served : Nat
  accepted : List (Peer τ × τ)
  events : List (Event τ)
  threads : List (String × Failure)
  records : List LogRecord
  dumps : List String
  stderr : Sink

def Log.line? (l : Log) (logger : String) (level : Level) (text : String) : Option Sink.Call :=
  match l.outlet with
  | .terminal named =>
    if l.threshold logger ≤ level.rank then
      some (.print (LogRecord.terminalText ⟨displayName logger, level, text⟩ named))
    else none
  | _ => none

namespace Surroundings

variable {s t u : Surroundings τ}

def listenerSide (s : Surroundings τ) : ListenerSide τ where
  clock := s.clock
  arrivals := s.connection.arrivals
  cancel := s.connection.cancel
  forwardings := s.connection.forwardings
  served := s.served
  accepted := s.accepted
  events := s.events
  threads := s.threads
  records := s.log.records
  dumps := s.log.dumps
  stderr := s.stderr

def withListenerSide (s : Surroundings τ) (l : ListenerSide τ) : Surroundings τ := { s with
  clock := l.clock
  connection := { s.connection with
    arrivals := l.arrivals, cancel := l.cancel, forwardings := l.forwardings }
  served := l.served
  accepted := l.accepted
  events := l.events
  threads := l.threads
  log := { s.log with records := l.records, dumps := l.dumps }
  stderr := l.stderr }

/-- A call that shows a record of the listener's side on the error output. -/
def IsListenerLine (s : Surroundings τ) (c : Sink.Call) : Prop :=
  ∃ logger level text, OfListener (.log logger level text : Change τ) ∧
    s.log.line? logger level text = some c

theorem IsListenerLine.kind_eq {s : Surroundings τ} {c : Sink.Call} (h : s.IsListenerLine c) :
    c.kind = .print := by
  obtain ⟨logger, level, text, -, hline⟩ := h
  rw [Log.line?] at hline
  split at hline
  · split at hline
    · obtain rfl := Option.some.inj hline
      rfl
    · cases hline
  · cases hline

/-- Surroundings that differ at most in the side of the listener. -/
def SameRest (s t : Surroundings τ) : Prop := t = s.withListenerSide t.listenerSide

namespace SameRest

theorem symm (h : SameRest s t) : SameRest t s := by
  rw [SameRest] at h
  rw [h]
  rfl

theorem trans (h : SameRest s t) (h' : SameRest t u) : SameRest s u := by
  rw [SameRest] at h h'
  rw [h', h]
  rfl

theorem logged (s : Surroundings τ) (logger : String) (level : Level) (text : String) :
    SameRest s (s.logged logger level text) := by
  rw [logged_def]
  dsimp only
  split
  · split
    · rfl
    · rfl
    · unfold Act.dump
      split <;> rfl
  · rfl

theorem listener {c : Change τ} (hc : OfListener c) (s : Surroundings τ) :
    SameRest s (c.apply s) := by
  cases hc with
  | gate h =>
    cases h with
    | reading h =>
      cases h with
      | log => exact .logged s _ _ _
      | _ => rfl
    | _ => rfl
  | release h =>
    cases h with
    | log => exact .logged s _ _ _
    | _ => rfl
  | ended => rfl

theorem const {β : Type*} (h : SameRest s t) (f : Surroundings τ → β)
    (hf : ∀ (s : Surroundings τ) l, f (s.withListenerSide l) = f s) : f t = f s := by
  rw [SameRest] at h
  rw [h, hf]

theorem line? (h : SameRest s t) : t.log.line? = s.log.line? :=
  h.const (·.log.line?) fun _ _ => rfl

theorem isListenerLine (h : SameRest s t) : t.IsListenerLine = s.IsListenerLine := by
  unfold IsListenerLine
  rw [h.line?]

end SameRest

theorem logged_stderr (s : Surroundings τ) (logger : String) (level : Level) (text : String) :
    (s.logged logger level text).stderr = match s.log.line? logger level text with
      | some c => (s.stderr.call c).2
      | none => s.stderr := by
  rw [logged_def, Log.line?]
  cases s.log.outlet with
  | terminal named =>
    dsimp only
    split
    · rfl
    · rfl
  | _ =>
    dsimp only
    split
    · rfl
    · rfl

end Surroundings

open Surroundings

/-- Alike but for what happens on the listener's side. A port that is granted has no sign. -/
structure Beside (s t : Surroundings τ) : Prop where
  rest : SameRest s t
  events : SameBut (fun e => OfListener (.event e)) s.events t.events
  threads : SameBut (fun x => OfListener (.thread x.1 x.2 : Change τ)) s.threads t.threads
  stderr : Sink.Alike s.IsListenerLine s.stderr t.stderr
  port : ∀ port, s.connection.forward = .ok port → 0 ≤ port

namespace Beside

variable {s t s' t' : Surroundings τ}

theorem forward (h : Beside s t) : t.connection.forward = s.connection.forward :=
  h.rest.const (·.connection.forward) fun _ _ => rfl

theorem symm (h : Beside s t) : Beside t s where
  rest := h.rest.symm
  events := h.events.symm
  threads := h.threads.symm
  stderr := h.rest.isListenerLine ▸ h.stderr.symm
  port port hport := h.port port (h.forward ▸ hport)

theorem commandView (h : Beside s t) : CommandView s t := by
  rw [h.rest]
  exact { CommandView.refl s with }

theorem terminalView (h : Beside s t) : TerminalView s t := by
  rw [h.rest]
  exact { TerminalView.refl s with }

theorem restoreView (h : Beside s t) : RestoreView s t := by
  rw [h.rest]
  exact ⟨rfl, rfl⟩

theorem connectView (h : Beside s t) : ConnectView s t := by
  rw [h.rest]
  exact { ConnectView.refl s with }

theorem random (h : Beside s t) : s.random = t.random := by
  rw [h.rest]
  rfl

theorem closeFailure (h : Beside s t) : s.connection.close = t.connection.close := by
  rw [h.rest]
  rfl

theorem logged (h : Beside s t) (logger : String) (level : Level) (text : String) :
    Beside (s.logged logger level text) (t.logged logger level text) where
  rest := (SameRest.logged s _ _ _).symm.trans (h.rest.trans (SameRest.logged t _ _ _))
  events := by simpa using h.events
  threads := by
    rw [logged_eq, t.logged_eq]
    exact h.threads
  stderr := by
    rw [(SameRest.logged s _ _ _).isListenerLine, logged_stderr, logged_stderr, h.rest.line?]
    cases s.log.line? logger level text with
    | none => exact h.stderr
    | some c => exact h.stderr.both c
  port := by simpa using h.port

theorem apply {c : Change τ} (hc : LeavesStreams c) (h : Beside s t) :
    Beside (c.apply s) (c.apply t) := by
  cases c with
  | log => exact h.logged _ _ _
  | relayed => exact hc.elim
  | _ =>
    exact {
      rest := by rw [SameRest, h.rest]; rfl
      events := by first | exact h.events | exact h.events.both _
      threads := by first | exact h.threads | exact h.threads.both _
      stderr := h.stderr
      port := h.port }

theorem before {c : Change τ} (hc : OfListener c) (h : Beside s t) : Beside (c.apply s) t := by
  have hrest := SameRest.listener hc s
  refine ⟨hrest.symm.trans h.rest, ?_, ?_, ?_, ?_⟩
  · cases c with
    | event e => exact h.events.left hc
    | log => simpa [Change.apply] using h.events
    | _ => exact h.events
  · cases c with
    | thread name f => exact h.threads.left hc
    | log =>
      rw [Change.apply, logged_eq]
      exact h.threads
    | relayed => exact hc.leavesStreams.elim
    | _ => exact h.threads
  · rw [hrest.isListenerLine]
    cases c with
    | log logger level text =>
      rw [Change.apply, logged_stderr]
      cases hline : s.log.line? logger level text with
      | none => exact h.stderr
      | some c => exact h.stderr.left ⟨logger, level, text, hc, hline⟩
    | relayed => exact hc.leavesStreams.elim
    | _ => exact h.stderr
  · cases c with
    | log => simpa [Change.apply] using h.port
    | _ => exact h.port

/-- What happens on the listener's side of either run leaves the runs alike. -/
theorem reached (h : Beside s t) (hs : Reaches OfListener s s') (ht : Reaches OfListener t t') :
    Beside s' t' := by
  have hleft : Beside s' t := hs.keeps (Beside · t) (fun _ hc _ h => h.before hc) h
  exact (ht.keeps (Beside · s') (fun _ hc _ h => h.before hc) hleft.symm).symm

/-- What does not look at the listener's side runs alike. -/
theorem agree {V : Surroundings τ → Surroundings τ → Prop} {C : Change τ → Prop} {a : Act τ α}
    (h : Within V C a) (hV : ∀ {s t : Surroundings τ}, Beside s t → V s t)
    (hC : ∀ c, C c → LeavesStreams c) : Agree Beside a a :=
  h Beside ⟨hV, fun hc _ _ => .apply (hC _ hc)⟩

end Beside

theorem Act.Within.beside {C : Change τ → Prop} {a : Act τ α}
    (h : Within CommandView (OffStreams C) a) : Agree Beside a a :=
  Beside.agree h Beside.commandView fun _ => OffStreams.mono fun _ _ => trivial

end Tether
