import Tether.Launch
import Tether.Proofs.Footprint.Gate
import Tether.Terminal.Mode

/-! # The footprint of a session

What is done in a session leaves the local terminal alone. Most of it is quiet:
it neither opens a channel nor closes one.
-/

namespace Tether

variable {τ α : Type}

structure SessionView (s t : Surroundings τ) : Prop extends GateView s t where
  window : s.window = t.window
  isTty : s.tty.isTty = t.tty.isTty
  signals : s.signals = t.signals
  stdin : s.stdin = t.stdin
  stdout : s.stdout = t.stdout
  stderr : s.stderr = t.stderr
  present : s.connection.present = t.connection.present
  active : s.connection.active = t.connection.active
  script : s.connection.script = t.connection.script
  channels : s.connection.channels = t.connection.channels
  forward : s.connection.forward = t.connection.forward
  cancel : s.connection.cancel = t.connection.cancel
  forwardings : s.connection.forwardings = t.connection.forwardings

structure CommandView (s t : Surroundings τ) : Prop where
  environment : s.environment = t.environment
  window : s.window = t.window
  isTty : s.tty.isTty = t.tty.isTty
  signals : s.signals = t.signals
  present : s.connection.present = t.connection.present
  active : s.connection.active = t.connection.active
  script : s.connection.script = t.connection.script
  channels : s.connection.channels = t.connection.channels

theorem CommandView.refl (s : Surroundings τ) : CommandView s s :=
  ⟨rfl, rfl, rfl, rfl, rfl, rfl, rfl, rfl⟩

theorem SessionView.commandView {s t : Surroundings τ} (h : SessionView s t) : CommandView s t :=
  ⟨h.environment, h.window, h.isTty, h.signals, h.present, h.active, h.script, h.channels⟩

theorem SessionView.refl (s : Surroundings τ) : SessionView s s :=
  ⟨.refl s, rfl, rfl, rfl, rfl, rfl, rfl, rfl, rfl, rfl, rfl, rfl, rfl, rfl⟩

structure TunnelView (s t : Surroundings τ) : Prop extends SessionView s t where
  arrivals : s.connection.arrivals = t.connection.arrivals

theorem TunnelView.refl (s : Surroundings τ) : TunnelView s s := ⟨.refl s, rfl⟩

theorem TunnelView.of_eq {s t : Surroundings τ} (h : s = t) : TunnelView s t := h ▸ .refl s

/-- How the remote side of a channel behaves, apart from its streams. -/
def Channel.nature (c : Channel) : Channel :=
  { c with stdout := [], stderr := [], stdin := {}, command := none }

/-- Neither opens nor closes anything, nor touches the terminal. -/
def Event.IsQuiet : Event τ → Prop
  | .openChannel _ | .channel _ .close | .putMode _ _ | .closeClient | .handler _ => False
  | _ => True

/-- Neither ends the session nor puts the terminal's mode back. -/
def Event.IsInner : Event τ → Prop
  | .putMode _ _ | .closeClient => False
  | _ => True

namespace Change

/-- Neither opens nor closes anything, nor has to do with the terminal or the handler. -/
def IsQuiet : Change τ → Prop
  | .event e => e.IsQuiet
  | .log logger _ _ => logger ≠ Terminal.loggerName
  | .openChannel _ | .handler _ | .holder _ | .device _ => False
  | .channel _ f => ∀ c, (f c).nature = c.nature
  | _ => True

def IsInner : Change τ → Prop
  | .event e => e.IsInner
  | .log logger _ _ => logger ≠ Terminal.loggerName
  | .holder _ | .device _ => False
  | .channel _ f => ∀ c, (f c).nature = c.nature
  | _ => True

theorem IsQuiet.isInner {c : Change τ} (h : c.IsQuiet) : c.IsInner := by
  cases c with
  | event e =>
    cases e with
    | putMode => exact h.elim
    | closeClient => exact h.elim
    | _ => exact trivial
  | _ => first | exact h | exact trivial

def OffStreams (C : Change τ → Prop) : Change τ → Prop
  | .relayed .. => False
  | c => C c

theorem OffStreams.mono {C D : Change τ → Prop} (hC : ∀ c, C c → D c) {c : Change τ}
    (h : OffStreams C c) : OffStreams D c := by
  cases c with
  | relayed => exact h
  | _ => exact hC _ h

theorem OffStreams.of {C : Change τ → Prop} {c : Change τ} (h : OffStreams C c) : C c := by
  cases c with
  | relayed => exact h.elim
  | _ => exact h

theorem OfGate.isQuiet {c : Change τ} (h : OfGate c) : c.IsQuiet := by
  cases h with
  | reading h =>
    cases h with
    | log level text =>
      show gateLogName ≠ Terminal.loggerName
      decide
    | _ => exact trivial
  | _ => exact trivial

inductive OfRelease : Change τ → Prop
  | forwardings (f : List Forwarding → List Forwarding) : OfRelease (.forwardings f)
  | cancelForward (host : String) (port : Int) : OfRelease (.event (.cancelForward host port))
  | log (level : Level) (text : String) : OfRelease (.log Session.loggerName level text)

theorem OfRelease.isQuiet {c : Change τ} (h : OfRelease c) : c.IsQuiet := by
  cases h with
  | log =>
    show Session.loggerName ≠ Terminal.loggerName
    decide
  | _ => exact trivial

end Change

open Act Change

theorem Act.Within.inner {V : Surroundings τ → Surroundings τ → Prop} {a : Act τ α}
    (h : Within V IsQuiet a) : Within V IsInner a :=
  h.mono (fun _ _ h => h) fun _ => IsQuiet.isInner

theorem Act.Within.ofGate {a : Act τ α} (h : Within GateView OfGate a) :
    Within SessionView IsQuiet a :=
  h.mono (fun _ _ h => h.toGateView) fun _ => OfGate.isQuiet

theorem Act.Within.quietLog {V : Surroundings τ → Surroundings τ → Prop} {logger : String}
    {level : Level} {text : String} (h : logger ≠ Terminal.loggerName := by decide) :
    Within V IsQuiet (Act.log logger level text) :=
  .log h

theorem Act.Within.commandLog {V : Surroundings τ → Surroundings τ → Prop} {logger : String}
    {level : Level} {text : String} (h : logger ≠ Terminal.loggerName := by decide) :
    Within V (OffStreams IsQuiet) (Act.log logger level text) :=
  .log h

/-- What opens or closes something is no less off the local streams. -/
theorem Act.Within.opening {V : Surroundings τ → Surroundings τ → Prop} {a : Act τ α}
    (h : Within V (OffStreams IsQuiet) a) : Within V (OffStreams IsInner) a :=
  h.mono (fun _ _ h => h) fun _ => OffStreams.mono fun _ => IsQuiet.isInner

theorem Act.Within.toSession {C : Change τ → Prop} {a : Act τ α}
    (h : Within CommandView (OffStreams C) a) : Within SessionView C a :=
  h.mono (fun _ _ h => h.commandView) fun _ => OffStreams.of

theorem Act.Within.toTunnel {C : Change τ → Prop} {a : Act τ α} (h : Within SessionView C a) :
    Within TunnelView C a :=
  h.mono (fun _ _ h => h.toSessionView) fun _ h => h

namespace Remote

theorem channel_within (i : Nat) :
    Within CommandView (OffStreams IsQuiet) (channel i : Act τ Channel) :=
  .get (fun _ => .pure _) fun s t h => by rw [h.channels]

theorem changeChannel_within (i : Nat) (f : Channel → Channel)
    (hf : ∀ c, (f c).nature = c.nature) :
    Within CommandView (OffStreams IsQuiet) (changeChannel i f : Act τ Unit) :=
  .change (.channel i f) hf

theorem call_within (i : Nat) {c : ChannelCall} (hc : c ≠ .close) (failure : Option Failure) :
    Within CommandView (OffStreams IsQuiet) (call i c failure : Act τ Unit) := by
  refine (Within.emit ?_).bind fun _ => .failIf failure
  cases c with
  | close => exact absurd rfl hc
  | _ => exact trivial

theorem setenv_within (i : Nat) (name value : String) :
    Within CommandView (OffStreams IsQuiet) (setenv i name value : Act τ Unit) :=
  (channel_within i).bind fun _ => call_within i (by simp) _

theorem sendPtyRequest_within (i : Nat) (term : String) (width height : Int)
    (modes : List (Int × Int)) :
    Within CommandView (OffStreams IsQuiet)
      (sendPtyRequest i term width height modes : Act τ Unit) := by
  refine (channel_within i).bind fun ch => ?_
  split
  · exact .throw _
  · refine (call_within i (by simp) _).bind fun _ => (Within.emit trivial).bind fun _ => ?_
    exact (Within.failIf _).bind fun _ => call_within i (by simp) _

theorem requestPty_within (i : Nat) (term : String) (width height : Int)
    (modes : List (Int × Int)) :
    Within CommandView (OffStreams IsQuiet) (requestPty i term width height modes : Act τ Unit) :=
  (sendPtyRequest_within i term width height modes).tryCatch fun _ => .throw _

theorem start_within (i : Nat) (command : String) :
    Within CommandView (OffStreams IsQuiet) (start i command : Act τ Unit) := by
  refine (changeChannel_within i _ (by exact fun _ => rfl)).bind fun _ => ?_
  refine .tryCatch ?_ fun _ => .throw _
  exact (channel_within i).bind fun _ => call_within i (by simp) _

theorem exitStatus_within (i : Nat) :
    Within CommandView (OffStreams IsQuiet) (exitStatus i : Act τ Int) :=
  (channel_within i).bind fun _ => (call_within i (by simp) _).bind fun _ => .pure _

theorem wait_within (i : Nat) : Within CommandView (OffStreams IsQuiet) (wait i : Act τ Unit) := by
  refine (exitStatus_within i).bind fun status => ?_
  dsimp only
  split
  · exact (channel_within i).bind fun _ => .throw _
  · split
    · exact .throw _
    · exact .pure _

theorem output_within (i : Nat) :
    Within CommandView (OffStreams IsQuiet) (output i : Act τ Bytes) := by
  refine (channel_within i).bind fun _ => (call_within i (by simp) _).bind fun _ => ?_
  refine (channel_within i).bind fun ch => ?_
  dsimp only
  exact (changeChannel_within i _ (by exact fun _ => rfl)).bind fun _ => .lift _

theorem close_within (i : Nat) : Within CommandView (OffStreams IsInner) (close i : Act τ Unit) :=
  (channel_within i).opening.bind fun _ => (Within.emit trivial).bind fun _ => .failIf _

end Remote

namespace Session

theorem ensureOpen_within (s : Session) :
    Within CommandView (OffStreams IsQuiet) (s.ensureOpen : Act τ Unit) := by
  refine .get (fun w => ?_) fun w w' h => by dsimp only; rw [h.present, h.active]
  dsimp only
  split
  · exact .throw _
  · exact .pure _

theorem openChannel_within (s : Session) :
    Within CommandView (OffStreams IsInner) (s.openChannel : Act τ Nat) := by
  refine .tryCatch (s.ensureOpen_within.opening.bind fun _ => ?_) fun _ => .throw _
  refine .get (fun w => ?_) fun w w' h => by dsimp only; rw [h.channels, h.script]
  refine (Within.emit trivial).bind fun _ => ?_
  refine Within.bind (.change (.openChannel _) trivial) fun _ => ?_
  exact (Within.failIf _).bind fun _ => .pure _

theorem runBody_within (i : Nat) (command : String) :
    Within CommandView (OffStreams IsQuiet) (tryCatch (do
        Remote.call i (.exec command) (← Remote.channel i).faults.exec
        let bytes ← Remote.output i
        return (bytes, ← Remote.exitStatus i))
      fun f => throw (if f.isSsh || f.isSystem then .trouble (.notRun command f.text) else f) :
      Act τ (Bytes × Int)) := by
  refine .tryCatch ?_ fun _ => .throw _
  refine (Remote.channel_within i).bind fun _ => ?_
  refine (Remote.call_within i (by simp) _).bind fun _ => ?_
  exact (Remote.output_within i).bind fun _ => (Remote.exitStatus_within i).bind fun _ => .pure _

theorem run_within (s : Session) (command : String) :
    Within CommandView (OffStreams IsInner) (s.run command : Act τ Bytes) := by
  refine s.openChannel_within.bind fun i => Within.bind ?_ fun r => ?_
  · exact (runBody_within i command).opening.tryFinally (Remote.close_within i)
  · dsimp only
    split
    · exact .throw _
    · exact .pure _

theorem closeForwarding_release (k : Nat) :
    Within SessionView OfRelease (closeForwarding k : Act τ Unit) := by
  refine .get (fun w => ?_) fun w w' h => by dsimp only; rw [h.forwardings, h.cancel]
  dsimp only
  split
  · exact .pure _
  · split
    · refine Within.bind (.change (.forwardings _) (.forwardings _)) fun _ => ?_
      refine (Within.emit (.cancelForward _ _)).bind fun _ => ?_
      split
      · exact .pure _
      · split
        · exact .log (.log _ _)
        · exact .throw _
    · exact .pure _

theorem closeForwarding_within (k : Nat) :
    Within SessionView IsQuiet (closeForwarding k : Act τ Unit) :=
  (closeForwarding_release k).mono (fun _ _ h => h) fun _ => OfRelease.isQuiet

theorem listen_within (s : Session) (address : String) :
    Within TunnelView IsQuiet (s.listen address : Act τ (Listener τ)) := by
  rw [listen]
  split
  · exact .throw _
  · refine s.ensureOpen_within.toSession.toTunnel.bind fun _ => ?_
    split
    · exact .throw _
    · refine (Within.emit trivial).bind fun _ => ?_
      refine .get (fun w => ?_) fun w w' h => by
        dsimp only
        rw [h.forward, h.forwardings, h.arrivals]
      dsimp only
      split
      · exact .throw _
      · exact Within.bind (.change (.forwardings (· ++ [_])) trivial) fun _ => .pure _

theorem close_within {C : Change τ → Prop} (hC : C (.event .closeClient)) (s : Session) :
    Within (fun s t => s.connection.close = t.connection.close) C (s.close : Act τ Unit) :=
  (Within.emit hC).bind fun _ => .get (fun _ => .failIf _) fun s t h => by rw [h]

end Session

namespace Launch

theorem windowSize_within :
    Within CommandView (OffStreams IsQuiet) (windowSize : Act τ (Int × Int)) :=
  .get (fun _ => .pure _) fun s t h => by rw [sizeIn, sizeIn, h.window, h.environment]

theorem propagate_within {setenv : String → String → Act τ Unit}
    (h : ∀ name value, Within CommandView (OffStreams IsQuiet) (setenv name value))
    (env : Environment) :
    Within CommandView (OffStreams IsQuiet) (propagate setenv env) := by
  induction env with
  | nil => exact .pure _
  | cons entry rest ih =>
    refine Within.bind (.tryCatch ?_ fun f => ?_) fun _ => ih.bind fun _ => .pure _
    · exact (h _ _).bind fun _ => .pure _
    · exact Within.bind .commandLog fun _ => .pure _

theorem started_within (i : Nat) (command : String) :
    Within CommandView (OffStreams IsQuiet) (do
      let (width, height) ← windowSize
      Remote.requestPty i term width height modes
      Act.log loggerName .debug s!"Start remote with command {Text.quoted command}"
      Remote.start i command : Act τ Unit) := by
  refine windowSize_within.bind fun _ => ?_
  refine (Remote.requestPty_within i _ _ _ _).bind fun _ => ?_
  exact Within.bind .commandLog fun _ => Remote.start_within i command

theorem begin_within (i : Nat) (command : String) (env : Environment) :
    Within CommandView (OffStreams IsQuiet) (begin (.onChannel i : ExecSession τ) command env) :=
  (propagate_within (Remote.setenv_within i) env).bind fun _ => started_within i command

end Launch

end Tether
