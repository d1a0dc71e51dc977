import Tether.Proofs.Footprint.Public
import Tether.Proofs.Namespace.Alike
import Tether.Proofs.Nonce

/-! # The secret of a session

Two runs that draw different nonces and are alike in everything else cannot be
told apart, except by the value of one variable that is set on the remote side.
-/

namespace Tether

open Act

/-- The same calls, but for the value that the nonce's variable is set to in one of them. -/
def SameCalls (n n' : Nonce) (es es' : List (Event Float)) : Prop :=
  es = es' ∨ ∃ before i after,
    es = before ++ .channel i (.setenv Nonce.variableName n.value) :: after ∧
    es' = before ++ .channel i (.setenv Nonce.variableName n'.value) :: after

theorem SameCalls.append {n n' : Nonce} {es es' : List (Event Float)} (h : SameCalls n n' es es')
    (e : Event Float) : SameCalls n n' (es ++ [e]) (es' ++ [e]) := by
  obtain rfl | ⟨before, i, after, rfl, rfl⟩ := h
  · exact .inl rfl
  · exact .inr ⟨before, i, after ++ [e], by simp, by simp⟩

def Surroundings.Draws (s : Surroundings Float) (n : Nonce) : Prop :=
  ∃ bs, s.random = .ok bs ∧ Nonce.ofBytes bs = .ok n

theorem Surroundings.Draws.exec_generate {s : Surroundings Float} {n : Nonce} (h : s.Draws n) :
    exec (Nonce.generate Program.randomBytes) s = (.ok n, s) := by
  obtain ⟨bs, hbs, hn⟩ := h
  simp only [Nonce.generate, Program.randomBytes, exec_bind, exec_tryCatch, exec_get, exec_lift,
    hbs, hn]

/-- Alike but for the nonces that are drawn, with related calls so far. -/
structure Veiled (n n' : Nonce) (D : List (Event Float) → List (Event Float) → Prop)
    (s t : Surroundings Float) : Prop where
  isPublic : PublicView s t
  draws : s.Draws n
  draws' : t.Draws n'
  calls : D s.events t.events
  arrivals : List.Forall₂ (Arrival.Twin (Peer.Alike n n')) s.connection.arrivals
    t.connection.arrivals

section

variable {n n' : Nonce} {D : List (Event Float) → List (Event Float) → Prop} {α : Type}

/-- Every change keeps what is alike so, if the calls remain related. -/
theorem Veiled.frame (hD : ∀ es es' e, D es es' → D (es ++ [e]) (es' ++ [e])) :
    Frame PublicView (fun _ => True) (Veiled n n' D) where
  sees h := h.isPublic
  keeps {c} _ s t h := by
    obtain ⟨hpublic, hdraws, hdraws', hcalls, harrivals⟩ := h
    have hpublic := hpublic.apply c
    cases c with
    | event e => exact ⟨hpublic, hdraws, hdraws', hD _ _ e hcalls, harrivals⟩
    | log =>
      refine ⟨hpublic, ?_, ?_, ?_, ?_⟩
      · simpa [Surroundings.Draws, Change.apply] using hdraws
      · simpa [Surroundings.Draws, Change.apply] using hdraws'
      · simpa [Change.apply] using hcalls
      · simpa [Change.apply] using harrivals
    | _ => exact ⟨hpublic, hdraws, hdraws', hcalls, harrivals⟩

theorem Veiled.frame_eq : Frame PublicView (fun _ => True) (Veiled n n' Eq) :=
  Veiled.frame fun _ _ _ h => by rw [h]

theorem Act.IsPublic.before {a : Act Float α} (h : IsPublic a) : Agree (Veiled n n' Eq) a a :=
  h _ Veiled.frame_eq

theorem Act.IsPublic.after {a : Act Float α} (h : IsPublic a) :
    Agree (Veiled n n' (SameCalls n n')) a a :=
  h _ (Veiled.frame fun _ _ e h => h.append e)

theorem Veiled.sameCalls {s t : Surroundings Float} (h : Veiled n n' Eq s t) :
    Veiled n n' (SameCalls n n') s t :=
  { h with calls := .inl h.calls }

theorem Act.Leads.sameCalls {S : α → α → Prop} {a b : Act Float α}
    (h : Relate (Veiled n n' Eq) S a b) :
    Leads (Veiled n n' Eq) (Veiled n n' (SameCalls n n')) S a b :=
  h.mono (fun _ _ h => h) (fun _ _ => Veiled.sameCalls) fun _ _ h => h

theorem Gate.twin_of_draws {s t : Surroundings Float} (hn : s.Draws n) (hn' : t.Draws n')
    (share : FileShare Float) (root : Path) (deadline : Float) :
    Gate.Twin (Veiled n n' Eq) (Peer.Alike n n') { share, root, nonce := n, deadline }
      { share, root, nonce := n', deadline } where
  share := rfl
  root := rfl
  deadline := rfl
  name _ _ h := h.name
  accept p q _ _ _ h := { h with isPublic := h.isPublic.accept p q }
  authenticate p q hpq timeout := by
    obtain ⟨bs, -, hbs⟩ := hn
    obtain ⟨bs', -, hbs'⟩ := hn'
    refine Gate.authenticate_relate (Veiled.frame_eq.mono ?_ fun _ _ => trivial) ?_ ?_ ?_ hpq
      timeout
    · exact fun _ _ h => h.sessionView.toGateView
    · exact Nonce.isAscii_of_ofBytes hbs
    · exact Nonce.isAscii_of_ofBytes hbs'
    · exact (Nonce.size_of_ofBytes hbs).trans (Nonce.size_of_ofBytes hbs').symm

/-- Listeners of the two runs: they differ in the connections that arrive. -/
structure Listener.Twin (n n' : Nonce) (l l' : Listener Float) : Prop where
  address : l.address = l'.address
  arrivals : List.Forall₂ (Arrival.Twin (Peer.Alike n n')) l.arrivals l'.arrivals
  close : ∃ k, l.close = Session.closeForwarding k ∧ l'.close = Session.closeForwarding k

theorem Session.listen_relate (s : Session) (address : String) :
    Relate (Veiled n n' Eq) (Listener.Twin n n') (s.listen address) (s.listen address) := by
  rw [listen]
  split
  · exact .throw _
  · rename_i host port _
    refine s.ensureOpen_within.toSession.ofSession.before.bind fun _ => ?_
    split
    · exact .throw _
    · rename_i k _
      have hcall : IsPublic (emit (.requestForward host k.toNat) : Act Float Unit) := .emit trivial
      refine hcall.before.bind fun _ => Relate.get fun w w' hw => ?_
      have hview := hw.isPublic.sessionView
      dsimp only
      rw [← hview.forward, ← hview.forwardings]
      split
      · exact .throw _
      · rename_i allocated _
        have hadd : IsPublic (modify fun w => { w with connection := { w.connection with
            forwardings := w.connection.forwardings ++ [{ host, port := allocated }] } } :
              Act Float Unit) :=
          .change (.forwardings (· ++ [_])) trivial
        exact hadd.before.bind fun _ => .pure ⟨rfl, hw.arrivals, _, rfl, rfl⟩

theorem Tunnel.negotiate_agree {s t : Surroundings Float} (hn : s.Draws n) (hn' : t.Draws n')
    (session : Session) (root : Path) (deadline : Float) (share : Option (FileShare Float))
    (requested : Int) :
    Agree (Veiled n n' Eq) (negotiate session.listen root n deadline share requested)
      (negotiate session.listen root n' deadline share requested) := by
  refine (session.listen_relate _).bind fun l l' hl => ?_
  obtain ⟨k, hk, hk'⟩ := hl.close
  have hclose : Agree (Veiled n n' Eq) l.close l'.close := by
    rw [hk, hk']
    exact (Session.closeForwarding_within k).ofSession.before
  have hlift (r : Except Failure String) : IsPublic (Act.lift r : Act Float String) := .lift r
  have hlog (text : String) : IsPublic (Act.log loggerName .debug text : Act Float Unit) :=
    .log trivial
  rw [hl.address]
  refine Agree.bind (Leads.tryCatch (hlift _).before fun f => ?_) fun port => ?_
  · exact hclose.bind fun _ => .throw f
  refine (hlog _).before.bind fun _ => ?_
  have hgate (share : FileShare Float) : Agree (Veiled n n' Eq)
      (do
        thread "cpu-namespace" do
          let _ ← Gate.run { share, root, nonce := n, deadline } l
        return port)
      (do
        thread "cpu-namespace" do
          let _ ← Gate.run { share, root, nonce := n', deadline } l'
        return port) := by
    have hrun := Gate.run_relate
      (Veiled.frame_eq.mono (fun _ _ h => h.sessionView.toGateView) fun _ _ => trivial)
      (Gate.twin_of_draws hn hn' share root deadline) hl.address hl.arrivals hclose
    refine Agree.bind (Agree.thread Veiled.frame_eq ?_ fun _ => trivial) fun _ => .pure rfl
    exact hrun.bind fun _ => .pure rfl
  cases share with
  | some share => exact hgate share
  | none => exact (FileShare.find_within none).ofGate.ofSession.before.bind hgate

namespace Run

/-- What goes with the tunnels of the two runs: the same, but for each run's own nonce. -/
def TunnelTwin (n n' : Nonce) (x y : Option String × Environment) : Prop :=
  x.1 = y.1 ∧ (x.2 = y.2 ∨
    x.2 = [(Nonce.variableName, n.value)] ∧ y.2 = [(Nonce.variableName, n'.value)])

theorem openTunnel_relate {m : Means Float} (hm : m.makeNonce = Nonce.generate Program.randomBytes)
    (session : Session) (o : ClientOptions) :
    Relate (Veiled n n' Eq) (TunnelTwin n n') (openTunnel m session o)
      (openTunnel m session o) := by
  rw [openTunnel, hm]
  split
  · intro s t h
    simp only [exec_bind, h.draws.exec_generate, h.draws'.exec_generate]
    have hnegotiate := Tunnel.negotiate_agree h.draws h.draws' session o.root o.timeout9p m.share
      o.port9p
    simpa only [exec_bind] using
      hnegotiate.bind (fun port => .pure ⟨rfl, .inr ⟨rfl, rfl⟩⟩) s t h
  · have hlog (text : String) : IsPublic (Act.log loggerName .debug text : Act Float Unit) :=
      .log trivial
    exact (hlog _).before.bind fun _ => .pure ⟨rfl, .inl rfl⟩

/-- Setting the nonce's variable is where the two runs part. -/
theorem setenv_leads (i : Nat) :
    Leads (Veiled n n' Eq) (Veiled n n' (SameCalls n n')) Eq
      (Remote.setenv i Nonce.variableName n.value)
      (Remote.setenv i Nonce.variableName n'.value) := by
  refine Leads.bind (Remote.channel_within i).toSession.ofSession.before ?_ fun _ _ =>
    Veiled.sameCalls
  rintro ch _ rfl
  have hcall : Leads (Veiled n n' Eq) (Veiled n n' (SameCalls n n')) Eq
      (emit (.channel i (.setenv Nonce.variableName n.value)))
      (emit (.channel i (.setenv Nonce.variableName n'.value))) := by
    intro s t h
    refine ⟨rfl, { h with isPublic := h.isPublic.emit _ _, calls := .inr ?_ }⟩
    exact ⟨s.events, i, [], rfl, by rw [h.calls]; rfl⟩
  have hfail (f : Option Failure) : IsPublic (failIf f : Act Float Unit) := .failIf f
  exact hcall.bind (fun _ _ _ => (hfail _).after) fun _ _ h => h

theorem propagate_leads (i : Nat) (env : Environment) :
    Leads (Veiled n n' Eq) (Veiled n n' (SameCalls n n')) Eq
      (Launch.propagate (Remote.setenv i) (env ++ [(Nonce.variableName, n.value)]))
      (Launch.propagate (Remote.setenv i) (env ++ [(Nonce.variableName, n'.value)])) := by
  have hrefused (name : String) (f : Failure) : IsPublic (do
      Act.log Launch.loggerName .warning (Launch.refusedText name f)
      return 1 : Act Float Nat) :=
    Within.bind (.log trivial) fun _ => .pure _
  induction env with
  | nil =>
    refine Leads.bind (Leads.tryCatch ?_ fun f => (hrefused _ f).after) ?_ fun _ _ h => h
    · exact (setenv_leads i).bind (fun _ _ _ => Relate.pure rfl) fun _ _ h => h
    · rintro failed _ rfl
      exact Relate.pure rfl
  | cons entry rest ih =>
    have hset : IsPublic (tryCatch (do Remote.setenv i entry.1 entry.2; return 0) fun f => do
        Act.log Launch.loggerName .warning (Launch.refusedText entry.1 f)
        return 1 : Act Float Nat) := by
      refine .tryCatch ?_ (hrefused entry.1)
      exact (Remote.setenv_within i _ _).toSession.ofSession.bind fun _ => .pure _
    refine Leads.bind hset.before ?_ fun _ _ => Veiled.sameCalls
    rintro failed _ rfl
    exact ih.bind (fun _ _ h => Relate.pure (by rw [h])) fun _ _ h => h

theorem work_leads (i : Nat) (command : String) (env : Environment) {extra extra' : Environment}
    (h : extra = extra' ∨ extra = [(Nonce.variableName, n.value)] ∧
      extra' = [(Nonce.variableName, n'.value)]) :
    Leads (Veiled n n' Eq) (Veiled n n' (SameCalls n n')) Eq (work i command (env ++ extra))
      (work i command (env ++ extra')) := by
  obtain rfl | ⟨rfl, rfl⟩ := h
  · exact Leads.sameCalls (work_within i command _).ofSession.before
  have hfail (f : Failure) : IsPublic (do Remote.close i; throw f : Act Float Unit) :=
    (Remote.close_within i).toSession.ofSession.bind fun _ => .throw f
  refine Leads.bind (Leads.tryCatch ?_ fun f => (hfail f).after) ?_ fun _ _ h => h
  · refine Leads.bind (propagate_leads i env) (fun _ _ _ => ?_) fun _ _ h => h
    exact (Launch.started_within i command).toSession.ofSession.after
  · exact fun _ _ _ => (attended_within i).ofSession.after

theorem inSession_leads {m : Means Float} (hm : m.makeNonce = Nonce.generate Program.randomBytes)
    (session : Session) (o : ClientOptions) (args : String) :
    Leads (Veiled n n' Eq) (Veiled n n' (SameCalls n n')) Eq (inSession m session o args)
      (inSession m session o args) := by
  rw [inSession_eq]
  refine Leads.bind (withServer_within session o).toSession.ofSession.before ?_ fun _ _ =>
    Veiled.sameCalls
  rintro o _ rfl
  refine Leads.bind (openTunnel_relate hm session o) ?_ fun _ _ => Veiled.sameCalls
  rintro ⟨port, extra⟩ ⟨_, extra'⟩ ⟨rfl, hextra⟩
  have hlog (text : String) : IsPublic (Act.log loggerName .debug text : Act Float Unit) :=
    .log trivial
  refine Leads.bind (hlog _).before (fun _ _ _ => ?_) fun _ _ => Veiled.sameCalls
  refine Leads.bind session.openChannel_within.toSession.ofSession.before ?_ fun _ _ =>
    Veiled.sameCalls
  rintro i _ rfl
  exact work_leads i _ _ hextra

theorem client_leads {m : Means Float} (hm : m.makeNonce = Nonce.generate Program.randomBytes)
    {o : ClientOptions} (hconnect : IsPublic (m.connect o)) :
    Leads (Veiled n n' Eq) (Veiled n n' (SameCalls n n')) Eq (client m o) (client m o) := by
  refine Leads.bind Terminal.capture_isPublic.before (fun _ _ _ => ?_) fun _ _ => Veiled.sameCalls
  have hconnected : IsPublic (tryCatch (do return .ok (← m.connect o)) fun f => return .error f :
      Act Float (Except Failure Session)) :=
    .tryCatch (hconnect.bind fun _ => .pure _) fun _ => .pure _
  refine Leads.bind hconnected.before ?_ fun _ _ => Veiled.sameCalls
  rintro r _ rfl
  rcases r with f | session
  · have hend : IsPublic (tryFinally (statusOf f) Terminal.restore : Act Float Int) :=
      (statusOf_isPublic f).tryFinally Terminal.restore_isPublic
    exact Leads.sameCalls hend.before
  · refine Leads.tryFinally (T := Eq) (Leads.tryCatch ?_ fun f => (statusOf_isPublic f).after) ?_
    · refine Leads.bind (S := Eq) ?_ (fun _ _ _ => Relate.pure rfl) fun _ _ h => h
      refine Leads.bind Terminal.enterRaw_isPublic.before (fun _ _ _ => ?_) fun _ _ =>
        Veiled.sameCalls
      exact (inSession_leads hm session o _).tryFinally Terminal.restore_isPublic.after
    · have hend : IsPublic (do Terminal.restore; session.close : Act Float Unit) :=
        Terminal.restore_isPublic.bind fun _ => session.close_isPublic
      exact hend.after

/-- Between two runs that are alike but for their nonces, all that is public stays the same to
the end, and the calls differ at most in the value of the nonce's variable. -/
theorem client_keepsSecret {m : Means Float}
    (hm : m.makeNonce = Nonce.generate Program.randomBytes) {o : ClientOptions}
    (hconnect : IsPublic (m.connect o)) {s t : Surroundings Float} (h : Veiled n n' Eq s t) :
    (exec (client m o) s).1 = (exec (client m o) t).1 ∧
      PublicView (exec (client m o) s).2 (exec (client m o) t).2 ∧
      SameCalls n n' (exec (client m o) s).2.events (exec (client m o) t).2.events := by
  have hleads : Leads (Veiled n n' Eq) (Veiled n n' (SameCalls n n')) Eq (client m o)
      (client m o) :=
    client_leads hm hconnect
  have hend := (hleads s t h).2
  exact ⟨Agree.result_eq hleads h, hend.isPublic, hend.calls⟩

end Run

end

namespace Run

def connected : Means Float := { Program.means [] with connect := fun o => pure ⟨o.host, o.port⟩ }

def nonceOf (b : UInt8) : Nonce := ⟨Hex.encode (List.replicate nonceBytes b)⟩

theorem nonceOf_eq (b : UInt8) :
    Nonce.ofBytes (List.replicate nonceBytes b) = .ok (nonceOf b) :=
  Nonce.ofBytes_eq_ok_iff.mpr ⟨List.length_replicate, rfl⟩

def bearing (b : UInt8) : Surroundings Float where
  clock := 0
  random := .ok (List.replicate nonceBytes b)
  connection :=
    { arrivals := [⟨0, .peer ⟨"near", [⟨0, .send (nonceOf b).bytes, false⟩], none⟩, false⟩] }

theorem client_keepsSecret_bearing :
    connected.makeNonce = Nonce.generate Program.randomBytes ∧
      IsPublic (connected.connect { host := "far", keyFile := {} }) ∧
      Veiled (nonceOf 0) (nonceOf 1) Eq (bearing 0) (bearing 1) ∧
      (exec (client connected { host := "far", keyFile := {} }) (bearing 0)).1 =
        (exec (client connected { host := "far", keyFile := {} }) (bearing 1)).1 ∧
      PublicView (exec (client connected { host := "far", keyFile := {} }) (bearing 0)).2
        (exec (client connected { host := "far", keyFile := {} }) (bearing 1)).2 ∧
      SameCalls (nonceOf 0) (nonceOf 1)
        (exec (client connected { host := "far", keyFile := {} }) (bearing 0)).2.events
        (exec (client connected { host := "far", keyFile := {} }) (bearing 1)).2.events := by
  have hconnect : IsPublic (connected.connect { host := "far", keyFile := {} }) := .pure _
  have hlength (b : UInt8) : (nonceOf b).bytes.length = 2 * nonceBytes := by
    rw [Nonce.length_bytes]
    exact Nonce.size_of_ofBytes (nonceOf_eq b)
  have hnonempty : (nonceOf 0).bytes ≠ [] := List.ne_nil_of_length_pos (by rw [hlength]; decide)
  have hreads := ReadAlike.atOnce (τ := Float) (a := ⟨0, .send (nonceOf 0).bytes, false⟩)
    (b := ⟨0, .send (nonceOf 1).bytes, false⟩) ((hlength 0).trans (hlength 1).symm) hnonempty
    ⟨rfl, rfl⟩ rfl rfl []
  rw [Nonce.length_bytes] at hreads
  have hveiled : Veiled (nonceOf 0) (nonceOf 1) Eq (bearing 0) (bearing 1) := {
    isPublic := ⟨_, _, _, _, rfl⟩
    draws := ⟨_, rfl, nonceOf_eq 0⟩
    draws' := ⟨_, rfl, nonceOf_eq 1⟩
    calls := rfl
    arrivals := .cons ⟨rfl, rfl, rfl, rfl, hreads⟩ .nil }
  exact ⟨rfl, hconnect, hveiled, client_keepsSecret rfl hconnect hveiled⟩

end Run

end Tether
