import Tether.Proofs.Footprint.Session
import Tether.Run

/-! # The footprint of a run

From the lookup of the server side to the close of its channel, everything stays
within the session.
-/

namespace Tether

open Act Change

section

variable {τ : Type}

/-- What is known of a listener that was just granted: the port in its address, and that the port
was not given back yet. -/
structure Listener.Granted (l : Listener τ) (s : Surroundings τ) : Prop where
  address : ∃ (host : String) (port : Int),
    s.connection.forward = .ok port ∧ l.address = s!"{host}:{port}"
  close : ∃ k f, l.close = Session.closeForwarding k ∧
    s.connection.forwardings[k]? = some f ∧ f.closed = false

theorem Session.listen_granted (s : Session) (address : String) {w u : Surroundings τ}
    {l : Listener τ} (h : exec (s.listen address) w = (.ok l, u)) : l.Granted u := by
  rw [listen] at h
  split at h
  · simp at h
  · rw [exec_bind] at h
    split at h
    · split at h
      · simp at h
      · simp only [exec_bind, exec_emit, exec_get] at h
        split at h
        · simp at h
        · rename_i hforward
          simp only [exec_bind, exec_modify, exec_pure, Prod.mk.injEq, Except.ok.injEq] at h
          obtain ⟨rfl, rfl⟩ := h
          exact ⟨⟨_, _, hforward, rfl⟩, ⟨_, _, rfl, List.getElem?_concat_length, rfl⟩⟩
    · simp at h

theorem Tunnel.negotiate_within [Time τ] (s : Session) (root : Path) (nonce : Nonce) (deadline : τ)
    (share : Option (FileShare τ)) (requested : Int) :
    Within TunnelView IsQuiet
      (negotiate s.listen root nonce deadline share requested : Act τ String) := by
  refine (s.listen_within _).bind_of (fun l => ∃ u, l.Granted u)
    (fun _ _ u h => ⟨u, s.listen_granted _ h⟩) fun l hl => ?_
  obtain ⟨_, -, ⟨k, _, hk, -⟩⟩ := hl
  have hclose : Within SessionView IsQuiet l.close := hk ▸ Session.closeForwarding_within k
  refine Within.bind (.tryCatch (.lift _) fun f => ?_) fun port => ?_
  · exact hclose.toTunnel.bind fun _ => .throw f
  refine Within.bind .quietLog fun _ => ?_
  have hgate (share : FileShare τ) : Within TunnelView IsQuiet (do
      thread "cpu-namespace" do
        let _ ← Gate.run { share, root, nonce, deadline } l
      return port) := by
    refine Within.bind (.thread ?_ fun _ => trivial) fun _ => .pure _
    have hrun := Gate.run_within { share, root, nonce, deadline } hclose
      (fun _ _ h => h.toGateView) fun _ => OfGate.isQuiet
    exact hrun.toTunnel.bind fun _ => .pure _
  cases share with
  | some share => exact hgate share
  | none => exact (FileShare.find_within none).ofGate.toTunnel.bind hgate

end

namespace Run

section

variable {τ : Type}

theorem findServer_within {V : Surroundings τ → Surroundings τ → Prop} {C : Change τ → Prop}
    {run : String → Act τ Bytes} (h : ∀ command, Within V C (run command)) :
    Within V C (findServer run) := by
  refine Within.bind (.tryCatch (h _) fun f => ?_) fun output => ?_
  · split <;> exact .throw _
  · split
    · exact .pure _
    · exact .throw _

theorem setHandler_within (h : ResizeHandler) :
    Within CommandView (OffStreams IsInner) (setHandler h : Act τ Unit) :=
  (Within.emit trivial).bind fun _ => .change (.handler h) trivial

theorem forwardingResizes_within {α : Type} (isTty : Bool) {a : Act τ α}
    (h : Within CommandView (OffStreams IsInner) a) :
    Within CommandView (OffStreams IsInner) (forwardingResizes isTty a) := by
  refine .get (fun s => ?_) fun s t h => by dsimp only; rw [h.signals]
  dsimp only
  split
  · exact h
  · exact (setHandler_within _).bind fun _ => h.tryFinally (setHandler_within _)

theorem relay_within (i : Nat) : Within SessionView IsQuiet (relay i : Act τ Unit) := by
  refine .get (fun s => ?_) fun s t h => by dsimp only; rw [h.stdin, h.stdout, h.stderr]
  refine (Remote.channel_within i).toSession.bind fun ch => ?_
  dsimp only
  refine Within.bind (.change (.relayed _ _ _ _) trivial) fun _ => ?_
  exact (Remote.changeChannel_within i _ (by exact fun _ => rfl)).toSession

theorem statusOf_within {V : Surroundings τ → Surroundings τ → Prop} {C : Change τ → Prop}
    (hC : ∀ text, C (.log loggerName .error text)) (f : Failure) :
    Within V C (statusOf f : Act τ Int) := by
  cases f with
  | remoteCommand r status => exact (Within.log (hC _)).bind fun _ => .pure _
  | _ =>
    unfold statusOf
    dsimp only
    split
    · exact (Within.log (hC _)).bind fun _ => .pure _
    · exact .throw _

end

theorem withServer_within (session : Session) (o : ClientOptions) :
    Within CommandView (OffStreams IsInner) (withServer session o : Act Float ClientOptions) := by
  rw [withServer]
  split
  · exact (findServer_within session.run_within).bind fun _ => .pure _
  · exact .pure _

theorem openTunnel_within {V : Surroundings Float → Surroundings Float → Prop} (m : Means Float)
    (hV : ∀ s t, V s t → TunnelView s t) (hnonce : Within V IsQuiet m.makeNonce)
    (session : Session) (o : ClientOptions) : Within V IsQuiet (openTunnel m session o) := by
  rw [openTunnel]
  split
  · refine hnonce.bind fun nonce => Within.bind ?_ fun port => .pure _
    exact (Tunnel.negotiate_within session _ _ _ _ _).mono hV fun _ h => h
  · exact Within.bind .quietLog fun _ => .pure _

def work (i : Nat) (command : String) (env : Environment) : Act Float Unit := do
  tryCatch (Launch.begin (.onChannel i) command env) fun f => do
    Remote.close i
    throw f
  try
    relay i
    forwardingResizes (← get).tty.isTty (Remote.wait i)
  finally Remote.close i

theorem inSession_eq (m : Means Float) (session : Session) (o : ClientOptions) (args : String) :
    inSession m session o args = (do
      let o ← withServer session o
      let (port, extra) ← openTunnel m session o
      let command := Launch.command o args port
      Act.log loggerName .debug s!"command is {Text.quoted command}"
      let i ← session.openChannel
      work i command (m.environment ++ extra)) := by
  simp only [inSession, launch, Session.newExec, work, bind_assoc, pure_bind]
  rfl

theorem attended_within (i : Nat) :
    Within SessionView IsInner (tryFinally (do
      relay i
      forwardingResizes (← get).tty.isTty (Remote.wait i)) (Remote.close i) : Act Float Unit) := by
  refine .tryFinally ((relay_within i).inner.bind fun _ => ?_) (Remote.close_within i).toSession
  refine .get (fun s => ?_) fun s t h => by rw [h.isTty]
  exact (forwardingResizes_within _ (Remote.wait_within i).opening).toSession

theorem work_within (i : Nat) (command : String) (env : Environment) :
    Within SessionView IsInner (work i command env) := by
  refine Within.bind (.tryCatch (Launch.begin_within i command env).toSession.inner fun f => ?_)
    fun _ => attended_within i
  exact (Remote.close_within i).toSession.bind fun _ => .throw f

theorem inSession_within {V : Surroundings Float → Surroundings Float → Prop} (m : Means Float)
    (hV : ∀ s t, V s t → TunnelView s t) (hnonce : Within V IsQuiet m.makeNonce)
    (session : Session) (o : ClientOptions) (args : String) :
    Within V IsInner (inSession m session o args) := by
  have hsession {α : Type} {a : Act Float α} (h : Within SessionView IsInner a) :
      Within V IsInner a :=
    h.mono (fun s t h => (hV s t h).toSessionView) fun _ h => h
  rw [inSession_eq]
  refine (hsession (withServer_within session o).toSession).bind fun o => ?_
  refine (openTunnel_within m hV hnonce session o).inner.bind fun tunnel => ?_
  refine Within.bind (Within.inner .quietLog) fun _ => ?_
  refine (hsession session.openChannel_within.toSession).bind fun i => ?_
  exact hsession (work_within i _ _)

end Run

end Tether
