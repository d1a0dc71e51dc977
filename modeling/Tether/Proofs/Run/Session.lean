import Tether.Proofs.Run.Lookup
import Tether.Proofs.Run.Tunnel

/-! # The trials of a session

From the lookup of the server side to the status that the remote command reports.
-/

namespace Tether

open Act Change Trial

variable {τ α β : Type}

namespace Launch

variable {i k : Nat} {ch : Channel} {u : Surroundings τ}

theorem trySet_ok (setenv : String → String → Act τ Unit) (v : String × String)
    (s : Surroundings τ) : ∃ n t, exec (tryCatch (do setenv v.1 v.2; return 0) fun f => do
        Act.log loggerName .warning (refusedText v.1 f)
        return 1 : Act τ Nat) s = (.ok n, t) := by
  rw [exec_tryCatch, exec_bind]
  rcases exec (setenv v.1 v.2) s with ⟨f | ⟨⟩, t⟩
  · simp only [exec_bind, exec_log, exec_pure]
    exact ⟨1, _, rfl⟩
  · exact ⟨0, t, rfl⟩

theorem propagate_ok (setenv : String → String → Act τ Unit) (env : Environment)
    (s : Surroundings τ) : ∃ n t, exec (propagate setenv env) s = (.ok n, t) := by
  induction env generalizing s with
  | nil => exact ⟨0, s, rfl⟩
  | cons v rest ih =>
    obtain ⟨n, t, hset⟩ := trySet_ok setenv v s
    obtain ⟨m, u, hrest⟩ := ih t
    rw [propagate, exec_bind, hset]
    dsimp only
    rw [exec_bind, hrest]
    exact ⟨n + m, u, rfl⟩

theorem exec_windowSize (s : Surroundings τ) : exec windowSize s = (.ok (sizeIn s), s) := rfl

theorem start_tried (size : Int × Int) (command : String) :
    Tried (Carries i ch : Surroundings τ → Prop)
      [.call (Remote.ptyFailure ch size) Failure.isSsh, .call ch.faults.exec Failure.isSsh]
      (do
        Remote.requestPty i term size.1 size.2 modes
        Act.log loggerName .debug s!"Start remote with command {Text.quoted command}"
        Remote.start i command) := by
  have hlog : Tried (Carries i ch : Surroundings τ → Prop) []
      (Act.log loggerName .debug s!"Start remote with command {Text.quoted command}") :=
    .of_ok fun s _ => ⟨(), _, exec_log _ _ _ s⟩
  show Tried _ ([.call _ _] ++ ([] ++ [.call _ _])) _
  apply (Remote.requestPty_tried size).quiet Carries.lasting
    (Remote.requestPty_within i _ _ _ _).toSession .refl
  intro _
  apply hlog.quiet Carries.lasting .quietLog SessionView.refl
  intro _
  exact Remote.start_tried command

theorem begin_tried (command : String) (env : Environment) :
    Tried (fun s => Continues u k s ∧ Carries i ch s)
      [.call (Remote.ptyFailure ch (sizeIn u)) Failure.isSsh, .call ch.faults.exec Failure.isSsh]
      (begin (.onChannel i) command env) := by
  have hlasting : Lasting fun s => Continues u k s ∧ Carries i ch s :=
    fun c hc s hs => ⟨Continues.lasting c hc s hs.1, Carries.lasting c hc s hs.2⟩
  have hpropagate : Tried (fun s => Continues u k s ∧ Carries i ch s) []
      (propagate (Remote.setenv i) env) :=
    .of_ok fun s _ => propagate_ok _ env s
  show Tried _ ([] ++ ([] ++ _)) _
  apply hpropagate.quiet hlasting (propagate_within (Remote.setenv_within i) env).toSession .refl
  intro _
  apply Tried.bind (Q := fun size s => size = sizeIn u ∧ Carries i ch s)
  · exact .of_ok fun s _ => ⟨sizeIn s, s, rfl⟩
  · -- The window and the environment are still the same.
    rintro s ⟨hu, hch⟩ size t e
    rw [exec_windowSize] at e
    obtain ⟨rfl, rfl⟩ : sizeIn s = size ∧ s = t := by simpa using e
    refine ⟨?_, hch⟩
    rw [sizeIn, sizeIn, hu.window, hu.environment]
  · rintro size s ⟨rfl, hs⟩
    exact start_tried (sizeIn u) command s hs

end Launch

namespace Run

section

variable {i k : Nat} {ch : Channel} {u s : Surroundings τ} {P : Surroundings τ → Prop}

theorem exec_forwardingResizes (isTty : Bool) (a : Act τ α) (s : Surroundings τ) :
    exec (forwardingResizes isTty a) s =
      if !isTty || !s.signals.supported || !s.signals.mainThread then exec a s
      else ((exec a (handled .forwarding s)).1,
        handled s.signals.handler (exec a (handled .forwarding s)).2) := by
  rw [forwardingResizes, exec_bind, exec_get]
  dsimp only
  split
  · rfl
  · rw [exec_bind, exec_setHandler]
    dsimp only
    rw [exec_tryFinally]
    rfl

theorem Lasting.handled (hP : Lasting P) (h : ResizeHandler) (hs : P s) : P (handled h s) :=
  hP (.handler h) trivial _ (hP (.event (.handler h)) trivial s hs)

theorem exec_attended (i : Nat) (s : Surroundings τ) : ∃ t isTty,
    exec (relay i) s = (.ok (), t) ∧
      exec (do relay i; forwardingResizes (← get).tty.isTty (Remote.wait i) : Act τ Unit) s =
        exec (forwardingResizes isTty (Remote.wait i)) t :=
  ⟨_, _, rfl, rfl⟩

theorem attended_tried (hclose : ch.faults.close = none) :
    Tried (Carries i ch : Surroundings τ → Prop)
      [.call ch.faults.exitStatus fun _ => false, .report ch.status]
      (tryFinally (do
        relay i
        forwardingResizes (← get).tty.isTty (Remote.wait i)) (Remote.close i)) := by
  intro s hs
  obtain ⟨t, isTty, hrelay, hrest⟩ := exec_attended i s
  have ht : Carries i ch t := by
    have hkept := Carries.lasting.exec (relay_within i) .refl hs
    rwa [hrelay] at hkept
  have hwait {v : Surroundings τ} (hv : Carries i ch v) : Carries i ch (exec (Remote.wait i) v).2 :=
    Carries.lasting.exec (Remote.wait_within i).toSession .refl hv
  have hhandled := Lasting.handled Carries.lasting .forwarding ht
  rw [exec_forwardingResizes] at hrest
  split at hrest
  · rw [Remote.exec_tryFinally_close (hrest ▸ hwait ht) hclose, hrest]
    exact Remote.wait_tried t ht
  · rw [Remote.exec_tryFinally_close
      (hrest ▸ Lasting.handled Carries.lasting t.signals.handler (hwait hhandled)) hclose, hrest]
    exact Remote.wait_tried _ hhandled

theorem work_tried (command : String) (env : Environment) {u : Surroundings Float}
    (hclose : ch.faults.close = none) :
    Tried (fun s => Continues u k s ∧ Carries i ch s)
      [.call (Remote.ptyFailure ch (Launch.sizeIn u)) Failure.isSsh,
        .call ch.faults.exec Failure.isSsh, .call ch.faults.exitStatus fun _ => false,
        .report ch.status]
      (work i command env) := by
  have hkept {s : Surroundings Float} (hs : Carries i ch s) :
      Carries i ch (exec (Launch.begin (.onChannel i) command env) s).2 :=
    Carries.lasting.exec (Launch.begin_within i command env).toSession .refl hs
  show Tried _ ([.call _ _, .call _ _] ++ [.call _ _, .report _]) _
  apply Tried.bind (Q := fun _ => Carries i ch)
  · intro s hs
    have hbegin := Launch.begin_tried command env s hs
    rw [Remote.exec_tryCatch_close (hkept hs.2) hclose]
    rcases e : exec (Launch.begin (.onChannel i) command env) s with ⟨f | ⟨⟩, t⟩ <;>
      rw [e] at hbegin <;> exact hbegin
  · intro s hs x t e
    have hcarries := hkept hs.2
    rw [Remote.exec_tryCatch_close hcarries hclose] at e
    rcases e' : exec (Launch.begin (.onChannel i) command env) s with ⟨f | ⟨⟩, v⟩ <;>
      rw [e'] at e hcarries
    · simp at e
    · obtain ⟨-, rfl⟩ := Prod.mk.inj e
      exact hcarries
  · exact fun _ => attended_tried hclose

end

def drawFails (u : Surroundings Float) : Bool :=
  u.random.toOption.all fun bs => bs.length ≠ nonceBytes

def tunnelTrials (m : Means Float) (o : ClientOptions) (u : Surroundings Float) : List Trial :=
  if namespaceEnabled m.environment then
    .check (drawFails u) :: Tunnel.trials u m.share o.port9p
  else []

def commandTrials (u : Surroundings Float) (ch : Channel) : List Trial :=
  Session.openTrials u.connection ch ++
    [.call (Remote.ptyFailure ch (Launch.sizeIn u)) Failure.isSsh,
      .call ch.faults.exec Failure.isSsh, .call ch.faults.exitStatus fun _ => false,
      .report ch.status]

def lookups (o : ClientOptions) : Nat := if o.bin = "" then 1 else 0

def trials (m : Means Float) (o : ClientOptions) (u : Surroundings Float) : List Trial :=
  (if o.bin = "" then lookupTrials u.connection (u.next 0) else []) ++ (tunnelTrials m o u ++
    commandTrials u (u.next (lookups o)))

section

variable {m : Means Float} {o : ClientOptions} {u : Surroundings Float} {k : Nat}

theorem withServer_tried (session : Session) (o : ClientOptions) (hcalm : Calm u) :
    Tried (Continues u 0) (if o.bin = "" then lookupTrials u.connection (u.next 0) else [])
      (withServer session o) := by
  rw [withServer]
  split
  · exact (findServer_tried session (hcalm.closeChannel _)).map _
  · exact .pure o

theorem withServer_continues (session : Session) (hcalm : Calm u) {o' : ClientOptions}
    {s t : Surroundings Float} (hs : Continues u 0 s)
    (h : exec (withServer session o) s = (.ok o', t)) :
    o'.port9p = o.port9p ∧ Continues u (lookups o) t := by
  rw [withServer] at h
  rw [lookups]
  split at h
  · rename_i hbin
    rw [if_pos hbin]
    rw [exec_bind] at h
    rcases e : exec (findServer session.run) s with ⟨f | path, v⟩ <;> rw [e] at h
    · simp at h
    · have hv := findServer_continues session (hcalm.closeChannel _) hs e
      obtain ⟨hserver, rfl⟩ := Prod.mk.inj h
      obtain rfl := Except.ok.inj hserver
      exact ⟨rfl, hv⟩
  · rename_i hbin
    rw [if_neg hbin]
    obtain ⟨hserver, rfl⟩ := Prod.mk.inj h
    obtain rfl := Except.ok.inj hserver
    exact ⟨rfl, hs⟩

theorem generate_tried :
    Tried (Continues u k) [.check (drawFails u)] (Nonce.generate Program.randomBytes) := by
  intro s hs
  have hrandom : exec (Program.randomBytes nonceBytes) s = (u.random, s) := by
    rw [Program.randomBytes, exec_bind, exec_get, ← hs.random]
    exact exec_lift _ _
  rw [Nonce.generate, exec_bind, exec_tryCatch, hrandom, drawFails]
  cases u.random with
  | error f => exact Accounts.check_true rfl _
  | ok bs =>
    dsimp only
    rw [exec_lift, Except.toOption, Option.all_some, Nonce.ofBytes]
    by_cases hlength : bs.length = nonceBytes
    · rw [if_pos hlength, decide_eq_false (not_not.mpr hlength)]
      rfl
    · rw [if_neg hlength, decide_eq_true hlength]
      exact Accounts.check_true rfl _

/-- Nonces come from the random source, and what else is done to draw one is quiet. -/
structure DrawsRandom (m : Means Float) : Prop where
  tried : ∀ u k, Tried (Continues u k) [.check (drawFails u)] m.makeNonce
  within : Within Eq IsQuiet m.makeNonce

theorem DrawsRandom.of_eq (h : m.makeNonce = Nonce.generate Program.randomBytes) :
    DrawsRandom m := by
  refine ⟨fun u k => h ▸ generate_tried, ?_⟩
  rw [h]
  apply (Program.makeNonce_within []).mono _ fun _ h => h
  rintro s _ rfl
  rfl

theorem openTunnel_tried (hdraws : DrawsRandom m) (session : Session) (o : ClientOptions)
    (hcalm : Calm u) :
    Tried (Continues u k) (tunnelTrials m o u) (openTunnel m session o) := by
  rw [openTunnel, tunnelTrials]
  split
  · show Tried _ ([.check (drawFails u)] ++ Tunnel.trials u m.share o.port9p) _
    apply (hdraws.tried u k).quiet Continues.lasting hdraws.within (fun _ => rfl)
    intro nonce
    exact (Tunnel.negotiate_tried session o.root nonce o.timeout9p m.share o.port9p hcalm).map _
  · apply Tried.map
    exact .of_ok fun s _ => ⟨(), _, exec_log _ _ _ s⟩

theorem command_tried (session : Session) (command : String) (env : Environment)
    (hcalm : Calm u) : Tried (Continues u k) (commandTrials u (u.next k)) (do
      let i ← session.openChannel
      work i command env) := by
  apply (Session.openChannel_tried session).bind (Q := fun i s =>
    Continues u (k + 1) s ∧ Carries i (u.next k) s)
  · intro s hs i t e
    exact (Session.opened_of_exec session hs e).2
  · intro i
    exact work_tried command env (hcalm.closeChannel _)

theorem inSession_tried (hdraws : DrawsRandom m) (hcalm : Calm u) (session : Session)
    (args : String) :
    Tried (Continues u 0) (trials m o u) (inSession m session o args) := by
  have hlog (text : String) : Tried (Continues u (lookups o)) []
      (Act.log loggerName .debug text) :=
    .of_ok fun s _ => ⟨(), _, exec_log _ _ _ s⟩
  rw [inSession_eq, trials]
  apply (withServer_tried session o hcalm).bind
  · intro s hs o' t e
    exact withServer_continues session hcalm hs e
  rintro o' s ⟨hport', hs⟩
  have hopened := openTunnel_tried (k := lookups o) hdraws session o' hcalm
  rw [tunnelTrials, hport'] at hopened
  refine hopened.quiet Continues.lasting
    (openTunnel_within m (fun _ _ => .of_eq) hdraws.within session o')
    (fun _ => rfl) ?_ s hs
  rintro ⟨port, extra⟩
  apply (hlog _).quiet Continues.lasting .quietLog SessionView.refl
  intro _
  exact command_tried session _ _ hcalm

end

end Run

end Tether
