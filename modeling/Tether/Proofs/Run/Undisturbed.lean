import Tether.Proofs.Connect.Login
import Tether.Proofs.Namespace.Address
import Tether.Proofs.Run.Beside
import Tether.Proofs.Run.Tunnel

/-! # A session that its tunnel does not disturb

Two runs with a tunnel that are alike but for what happens on the listener take the same course.
-/

namespace Tether

open Act Change

variable {τ α : Type}

/-- The same surroundings with another course of events on the listener. -/
def Surroundings.withListener (s : Surroundings τ) (clock : τ) (arrivals : List (Arrival τ))
    (cancel : Option Failure) : Surroundings τ :=
  { s with clock, connection := { s.connection with arrivals, cancel } }

namespace Listener.Granted

variable {l : Listener τ} {s : Surroundings τ}

/-- Whatever becomes of the gate, its thread ends, and all that it did was on the side of the
listener. -/
theorem exec_gate [Time τ] (h : l.Granted s) (g : Gate τ) (t : Surroundings τ) :
    ∃ u, Reaches OfListener t u ∧
      exec (thread "cpu-namespace" do let _ ← g.run l) t = (.ok (), u) := by
  obtain ⟨-, ⟨k, _, hclose, -⟩⟩ := h
  have hrelease : Within SessionView OfListener l.close := by
    rw [hclose]
    exact (Session.closeForwarding_release k).mono (fun _ _ h => h) fun _ => .release
  have hrun := g.run_within hrelease (fun _ _ h => h.toGateView) fun _ => .gate
  have hthread : Within SessionView OfListener (thread "cpu-namespace" do let _ ← g.run l) :=
    .thread (hrun.bind fun _ => .pure _) .ended
  have hreached := hthread.reaches .refl t
  obtain ⟨u, e⟩ := Tunnel.thread_ok "cpu-namespace" (do let _ ← g.run l) t
  rw [e] at hreached
  exact ⟨u, hreached, e⟩

end Listener.Granted

theorem Session.listen_agree (s : Session) (address : String) :
    Relate (τ := τ) Beside (fun l l' => l.address = l'.address) (s.listen address)
      (s.listen address) := by
  rw [listen]
  split
  · exact .throw _
  · rename_i host port _
    refine s.ensureOpen_within.beside.bind fun _ => ?_
    split
    · exact .throw _
    · rename_i n _
      have hcall : Agree Beside (emit (.requestForward host n.toNat) : Act τ Unit)
          (emit (.requestForward host n.toNat)) :=
        fun _ _ h => ⟨rfl, h.apply (c := .event (.requestForward host n.toNat)) trivial⟩
      refine hcall.bind fun _ => Relate.get fun w w' hw => ?_
      dsimp only
      rw [hw.forward]
      split
      · exact .throw _
      · rename_i allocated _
        have hadd (fs : List Forwarding) : Agree Beside
            (modify (Change.forwardings (· ++ fs)).apply : Act τ Unit)
            (modify (Change.forwardings (· ++ fs)).apply) :=
          fun _ _ h => ⟨rfl, h.apply (c := .forwardings (· ++ fs)) trivial⟩
        exact (hadd [{ host, port := allocated }]).bind fun _ => .pure rfl

namespace Tunnel

variable [Time τ] {l l' : Listener τ} {s s' : Surroundings τ}

/-- Once the port can be told, the gates of both runs go about their own business. -/
theorem serve_beside (hl : l.Granted s) (hl' : l'.Granted s') (g g' : Gate τ) (text port : String) :
    Agree Beside
      (do
        Act.log loggerName .debug text
        thread "cpu-namespace" do let _ ← g.run l
        return port)
      (do
        Act.log loggerName .debug text
        thread "cpu-namespace" do let _ ← g'.run l'
        return port) := by
  refine (Within.beside .commandLog).bind fun _ t t' h => ?_
  obtain ⟨u, hu, e⟩ := hl.exec_gate g t
  obtain ⟨u', hu', e'⟩ := hl'.exec_gate g' t'
  rw [exec_bind, exec_bind, e, e']
  exact ⟨rfl, h.reached hu hu'⟩

theorem negotiate_beside (session : Session) (root : Path) (nonce : Nonce) (deadline : τ)
    (a b : FileShare τ) (requested : Int) :
    Agree Beside (negotiate session.listen root nonce deadline (some a) requested)
      (negotiate session.listen root nonce deadline (some b) requested) := by
  intro w w' h
  rw [negotiate, negotiate, exec_bind, exec_bind]
  obtain ⟨f, s, s', e, e', h⟩ | ⟨l, l', s, s', e, e', haddress, h⟩ :=
    (session.listen_agree _).cases h <;> rw [e, e']
  · exact ⟨rfl, h⟩
  have hl := session.listen_granted _ e
  have hl' := session.listen_granted _ e'
  obtain ⟨host, port, hforward, htext⟩ := hl.address
  dsimp only
  rw [exec_bind, exec_bind, exec_tryCatch, exec_tryCatch, ← haddress, htext, parsePort_int,
    exec_lift, exec_lift]
  rw [if_pos (h.port port hforward)]
  exact serve_beside hl hl' _ _ _ _ s s' h

end Tunnel

namespace Run

def streams (i : Nat) (s : Surroundings τ) : Multiplexer :=
  let ch := s.connection.channels[i]?.getD {}
  { stdin := s.stdin, remoteOut := ch.stdout, remoteError := ch.stderr
    remote := ch.stdin, stdout := s.stdout, stderr := s.stderr }

theorem exec_relay (i : Nat) (s : Surroundings τ) :
    exec (relay i) s = (.ok (), { s with
      stdin := (streams i s).run.2.stdin
      stdout := (streams i s).run.2.stdout
      stderr := (streams i s).run.2.stderr
      threads := s.threads ++ Multiplexer.failures (streams i s).run.1
      connection := { s.connection with channels := s.connection.channels.modify i fun ch =>
        { ch with
          stdin := (streams i s).run.2.remote
          stdout := (streams i s).run.2.remoteOut
          stderr := (streams i s).run.2.remoteError } } }) :=
  rfl

/-- What the log shows of the listener's side does not get in the way of the relays. -/
theorem relay_agree (i : Nat) : Agree Beside (relay i : Act τ Unit) (relay i) := by
  intro s t h
  have hstreams : streams i t = { streams i s with stderr := t.stderr } := by
    rw [h.rest]
    rfl
  obtain ⟨hendings, hrest, hstderr⟩ := Multiplexer.run_alike (streams i s) h.stderr
  rw [← hstreams] at hendings hrest hstderr
  rw [exec_relay, exec_relay]
  refine ⟨rfl, ?_, h.events, ?_, hstderr, h.port⟩
  · rw [Surroundings.SameRest]
    dsimp only
    rw [hrest]
    generalize (streams i t).run = r
    rw [h.rest]
    rfl
  · dsimp only
    rw [hendings]
    exact h.threads.append _

abbrev Means.sharing (m : Means Float) (share : FileShare Float) : Means Float :=
  { m with share := some share }

variable {m : Means Float} (a b : FileShare Float)

theorem openTunnel_beside (hnonce : Agree Beside m.makeNonce m.makeNonce) (session : Session)
    (o : ClientOptions) :
    Agree Beside (openTunnel (m.sharing a) session o) (openTunnel (m.sharing b) session o) := by
  unfold openTunnel
  dsimp only [Means.sharing]
  by_cases hexported : namespaceEnabled m.environment
  · rw [if_pos hexported, if_pos hexported]
    refine hnonce.bind fun nonce => ?_
    exact (Tunnel.negotiate_beside session _ nonce _ a b _).bind fun port => .pure rfl
  · rw [if_neg hexported, if_neg hexported]
    exact (Within.beside .commandLog).bind fun _ => .pure rfl

theorem work_beside (i : Nat) (command : String) (env : Environment) :
    Agree Beside (work i command env) (work i command env) := by
  have hclose : Agree Beside (Remote.close i : Act Float Unit) (Remote.close i) :=
    (Remote.close_within i).beside
  refine Agree.bind (Leads.tryCatch (Launch.begin_within i command env).beside fun f => ?_)
    fun _ => ?_
  · exact hclose.bind fun _ => .throw f
  refine Leads.tryFinally ((relay_agree i).bind fun _ => ?_) hclose
  refine Relate.get fun s t h => ?_
  rw [h.commandView.isTty]
  exact (forwardingResizes_within _ (Remote.wait_within i).opening).beside

theorem inSession_beside (hnonce : Agree Beside m.makeNonce m.makeNonce) (session : Session)
    (o : ClientOptions) (args : String) :
    Agree Beside (inSession (m.sharing a) session o args)
      (inSession (m.sharing b) session o args) := by
  rw [inSession_eq, inSession_eq]
  refine (withServer_within session o).beside.bind fun o => ?_
  refine (openTunnel_beside a b hnonce session o).bind fun tunnel => ?_
  refine (Within.beside .commandLog).bind fun _ => ?_
  exact session.openChannel_within.beside.bind fun i => work_beside i _ _

theorem client_beside {o : ClientOptions} (hconnect : Agree Beside (m.connect o) (m.connect o))
    (hnonce : Agree Beside m.makeNonce m.makeNonce) :
    Agree Beside (client (m.sharing a) o) (client (m.sharing b) o) := by
  have hentry {α : Type} {x : Act Float α} (hx : Within TerminalView OfEntry x) :
      Agree Beside x x :=
    Beside.agree hx Beside.terminalView fun _ hc => by cases hc <;> exact trivial
  have hrestore : Agree Beside (Terminal.restore : Act Float Unit) Terminal.restore :=
    Beside.agree Terminal.restore_within Beside.restoreView fun _ hc => by
      cases hc <;> exact trivial
  have hstatus (f : Failure) : Agree Beside (statusOf f : Act Float Int) (statusOf f) :=
    (statusOf_within (C := LeavesStreams) (fun _ => trivial) f).beside
  refine (hentry Terminal.capture_within).bind fun _ => ?_
  refine Agree.bind (Leads.tryCatch ?_ fun f => .pure rfl) fun r => ?_
  · exact hconnect.bind fun _ => .pure rfl
  cases r with
  | error f => exact Leads.tryFinally (hstatus f) hrestore
  | ok session =>
    have hclose : Agree Beside (session.close : Act Float Unit) session.close :=
      Beside.agree (Session.close_within (C := LeavesStreams) trivial session)
        Beside.closeFailure fun _ h => h
    refine Leads.tryFinally (Leads.tryCatch ?_ hstatus) (hrestore.bind fun _ => hclose)
    refine Agree.bind ((hentry Terminal.enterRaw_within).bind fun _ => ?_) fun _ => .pure rfl
    exact (inSession_beside a b hnonce session o _).tryFinally hrestore

/-- The course that the session took is the same on both sides, down to the bytes that went each
way, the mode of the terminal and what was closed. What either side has of its own was done on the
side of the listener. -/
structure SameCourse (s t : Surroundings τ) : Prop where
  calls : SameBut (fun e => OfListener (.event e)) s.events t.events
  channels : s.connection.channels = t.connection.channels
  stdin : s.stdin = t.stdin
  stdout : s.stdout = t.stdout
  stderr : SameBut s.IsListenerLine s.stderr.calls t.stderr.calls
  threads : SameBut (fun x => OfListener (.thread x.1 x.2 : Change τ)) s.threads t.threads
  tty : s.tty = t.tty
  terminal : s.terminal = t.terminal
  signals : s.signals = t.signals

theorem SameCourse.of_beside {s t : Surroundings τ} (h : Beside s t) : SameCourse s t where
  calls := h.events
  channels := (h.rest.const (·.connection.channels) fun _ _ => rfl).symm
  stdin := (h.rest.const (·.stdin) fun _ _ => rfl).symm
  stdout := (h.rest.const (·.stdout) fun _ _ => rfl).symm
  stderr := h.stderr.calls
  threads := h.threads
  tty := (h.rest.const (·.tty) fun _ _ => rfl).symm
  terminal := (h.rest.const (·.terminal) fun _ _ => rfl).symm
  signals := (h.rest.const (·.signals) fun _ _ => rfl).symm

/-- What happens on the listener has no part in the session: how many connections arrive, what
they bring, what time passes, what giving the port back comes to, and what the server does. The
library reads the port that it is granted as a number without a sign. -/
theorem client_undisturbed {m : Means Float} {o : ClientOptions}
    (hconnect : Agree Beside (m.connect o) (m.connect o))
    (hnonce : Agree Beside m.makeNonce m.makeNonce) {s : Surroundings Float}
    (hport : ∀ port, s.connection.forward = .ok port → 0 ≤ port) (clock : Float)
    (arrivals : List (Arrival Float)) (cancel : Option Failure) (a b : FileShare Float) :
    (exec (client (m.sharing a) o) s).1 =
        (exec (client (m.sharing b) o) (s.withListener clock arrivals cancel)).1 ∧
      SameCourse (exec (client (m.sharing a) o) s).2
        (exec (client (m.sharing b) o) (s.withListener clock arrivals cancel)).2 := by
  have hbeside : Beside s (s.withListener clock arrivals cancel) := {
    rest := rfl
    events := .refl _
    threads := .refl _
    stderr := ⟨rfl, .refl _, fun _ hc => hc.kind_eq⟩
    port := hport }
  have hagree := client_beside a b hconnect hnonce
  exact ⟨Agree.result_eq hagree hbeside, .of_beside (hagree _ _ hbeside).2⟩

/-- The program's own means do not look at the side of the listener. -/
theorem means_beside (env : Environment) (o : ClientOptions) :
    Agree Beside ((Program.means env).connect o) ((Program.means env).connect o) ∧
      Agree Beside (Program.means env).makeNonce (Program.means env).makeNonce := by
  constructor
  · refine Beside.agree (Program.connect_login env o) Beside.connectView fun c hc => ?_
    cases hc with
    | dialling h => cases h <;> exact trivial
    | _ => exact trivial
  · exact Beside.agree (Program.makeNonce_within (C := LeavesStreams) env) Beside.random
      fun _ h => h

/-- A port is granted, but nobody ever connects to it. The log shows on the terminal. -/
def granting : Surroundings Float where
  clock := 0
  log := { outlet := .terminal false, root := Level.warning.rank }
  files := { known := [({ parts := ["k"] }, Bytes.ofAscii Connect.smallKey)] }
  network := .found [{ name := "a" }]
  random := .ok (List.replicate nonceBytes 171)
  connection := { forward := .ok 40123 }

def grantedOptions : ClientOptions where
  host := "srv"
  keyFile := { parts := ["k"] }

def bringing : Arrival Float :=
  let step := .send (Bytes.ofAscii (Hex.encode (List.replicate nonceBytes 171)))
  ⟨0, .peer ⟨"near", [⟨0, step, false⟩], none⟩, false⟩

/-- On the other side the server breaks down, and giving the port back would fail. -/
theorem client_undisturbed_granting :
    (∀ port, granting.connection.forward = .ok port → 0 ≤ port) ∧
      (exec (client ((Program.means []).sharing (.missing "9p")) grantedOptions) granting).1 =
        (exec (client ((Program.means []).sharing
            (.installed "server" fun _ _ => { failure := some (.outside .runtime "broken") }))
          grantedOptions)
          (granting.withListener 3600 [bringing] (some (.outside .runtime "lost")))).1 ∧
      SameCourse
        (exec (client ((Program.means []).sharing (.missing "9p")) grantedOptions) granting).2
        (exec (client ((Program.means []).sharing
            (.installed "server" fun _ _ => { failure := some (.outside .runtime "broken") }))
          grantedOptions)
          (granting.withListener 3600 [bringing] (some (.outside .runtime "lost")))).2 := by
  have hmeans := means_beside [] grantedOptions
  have hport (port : Int) (hgranted : granting.connection.forward = .ok port) : 0 ≤ port := by
    obtain rfl : 40123 = port := Except.ok.inj hgranted
    decide
  exact ⟨hport, client_undisturbed hmeans.1 hmeans.2 hport _ _ _ _ _⟩

end Run

end Tether
