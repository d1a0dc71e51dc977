import Tether.Proofs.Connect.Mute
import Tether.Proofs.Run.Agreement

/-! # How a session concludes

Either the command was not started, and the session fails with a mute failure, or the session
ends as the channel of the command makes it.
-/

namespace Tether

open Act Change

variable {τ α : Type}

/-- Keeps away from channels and from whatever counts as a note, and fails with mute failures
only. -/
structure Act.Modest (a : Act τ α) : Prop where
  reaches : ∀ s, Reaches (fun c => c.IsApart ∧ c.OpensNone) s (exec a s).2
  mute : Mute (fun _ => True) a

theorem Act.Modest.follows {a : Act τ α} (h : a.Modest) (s : Surroundings τ) :
    Follows [] 0 s (exec a s).2 :=
  .of_reaches (fun _ hc => hc.1) (h.reaches s)

namespace Remote

variable {i : Nat} {ch : Channel} {s : Surroundings τ}

def closeResult (ch : Channel) (r : Except Failure α) : Except Failure α :=
  match ch.faults.close with
  | none => r
  | some f => .error f

theorem tryFinally_close_result {a : Act τ α} (h : Carries i ch (exec a s).2) :
    (exec (tryFinally a (close i)) s).1 = closeResult ch (exec a s).1 := by
  rw [exec_tryFinally, closeResult]
  dsimp only
  rw [close, exec_bind, exec_channel]
  dsimp only
  rw [h.faults, exec_call]
  cases ch.faults.close <;> rfl

def waitResult (ch : Channel) (command : Option String) : Except Failure Unit :=
  match ch.faults.exitStatus with
  | some f => .error f
  | none =>
    if ch.status = -1 then .error (.trouble (.noStatus command))
    else if ch.status = 0 then .ok ()
    else .error (.remoteCommand .exited ch.status)

theorem wait_result (h : Carries i ch s) :
    ∃ command, (exec (wait i) s).1 = waitResult ch command := by
  rw [wait, exec_bind, exec_exitStatus h]
  unfold waitResult
  cases ch.faults.exitStatus with
  | some f => exact ⟨none, rfl⟩
  | none =>
    by_cases hnone : ch.status = -1
    · rw [hnone]
      exact ⟨_, rfl⟩
    · by_cases hzero : ch.status = 0
      · rw [hzero]
        exact ⟨none, rfl⟩
      · simp only [if_neg hnone, if_neg hzero, if_pos hzero, ne_eq]
        exact ⟨none, rfl⟩

end Remote

namespace Session

variable (session : Session) {u w : Surroundings τ} {k : Nat}

theorem run_succeeds (hw : Continues u k w) {command : String} {bytes : Bytes}
    {t : Surroundings τ} (h : exec (session.run command) w = (.ok bytes, t)) :
    (u.next k).faults.close = none ∧ (u.next k).status = 0 := by
  have hclose : (u.next k).faults.close = none := by
    rw [run, exec_bind] at h
    rcases e : exec session.openChannel w with ⟨f | i, v⟩ <;> rw [e] at h
    · cases h
    · obtain ⟨-, hv, hcarries⟩ := opened_of_exec session hw e
      have hbody := Carries.lasting.exec (runBody_within i command).toSession .refl hcarries
      have hclosed := Remote.tryFinally_close_result hbody
      dsimp only at h
      rw [exec_bind] at h
      rw [Remote.closeResult] at hclosed
      cases hfault : (u.next k).faults.close with
      | none => rfl
      | some f =>
        rw [hfault] at hclosed
        split at h
        · rename_i x v' e'
          rw [e'] at hclosed
          cases hclosed
        · cases h
  have hresult := session.run_result hw command hclose
  rw [h] at hresult
  refine ⟨hclose, ?_⟩
  dsimp only at hresult
  split at hresult
  · cases hresult
  · split at hresult
    · cases hresult
    · split at hresult
      · cases hresult
      · split at hresult
        · assumption
        · cases hresult

end Session

namespace Launch

variable {i k : Nat} {ch : Channel} {u s t : Surroundings τ}

/-- A command that could have been started has not been asked for if something failed. -/
theorem begin_unstarted (hs : Carries i ch s) (hexec : ch.faults.exec = none) (exported : Bool)
    {command : String} {env : Environment} {f : Failure}
    (h : exec (begin (.onChannel i) command env) s = (.error f, t)) :
    Strays (Event.IsEarly i exported) s t := by
  obtain ⟨n, v, hset⟩ := propagate_ok (Remote.setenv i) env s
  have hkept :=
    Carries.lasting.exec (propagate_within (Remote.setenv_within i) env).toSession .refl hs
  have hnotes := propagate_makes i env s
  rw [hset] at hkept hnotes
  have hmade : Strays (Event.IsEarly i exported) s v :=
    .of_follows hnotes (setNotes_early i exported env)
  rw [begin] at h
  dsimp only [ExecSession.onChannel] at h
  rw [exec_bind, hset] at h
  dsimp only at h
  rw [exec_bind, exec_windowSize] at h
  dsimp only at h
  have hpty := requestPty_ensures i exported (sizeIn v).1 (sizeIn v).2 v
  have hcarries := Carries.lasting.exec
    (Remote.requestPty_within i term (sizeIn v).1 (sizeIn v).2 modes).toSession .refl hkept
  unfold Ensures at hpty
  rw [exec_bind] at h
  rcases e : exec (Remote.requestPty i term (sizeIn v).1 (sizeIn v).2 modes) v with ⟨g | ⟨⟩, w⟩ <;>
    rw [e] at h hpty hcarries
  · cases h
    exact hmade.trans hpty
  · -- With a terminal nothing is left to fail.
    dsimp only at h
    rw [exec_bind, exec_log] at h
    have hlogged : Carries i ch (w.logged loggerName .debug
        s!"Start remote with command {Text.quoted command}") :=
      Carries.lasting (.log _ _ _) trivial _ hcarries
    obtain ⟨x, t', hstarted⟩ := (Remote.start_tried command).exists_ok (by rw [hexec]; rfl) hlogged
    dsimp only at h
    rw [hstarted] at h
    cases h

end Launch

namespace Run

/-- How the session of a command ends, with these notes: the command was not started, or it was
and its status was asked for. -/
inductive Concludes (i : Nat) (ch : Channel) (ns : List (Event τ)) : Except Failure Unit → Prop
  | unstarted {f : Failure}
    (h : ∀ command, .channel i (.exec command) ∈ ns → ch.faults.exec ≠ none) (hf : f.IsMute) :
    Concludes i ch ns (.error f)
  | attended {command : String} {started : Option String}
    (hexec : .channel i (.exec command) ∈ ns) (hstarted : ch.faults.exec = none)
    (hasked : .channel i .exitStatus ∈ ns) :
    Concludes i ch ns (Remote.closeResult ch (Remote.waitResult ch started))

theorem Concludes.preceded {i : Nat} {ch : Channel} {ns ns' : List (Event τ)}
    {r : Except Failure Unit} {exported : Bool} (hns : ∀ e ∈ ns, e.IsEarly i exported)
    (h : Concludes i ch ns' r) : Concludes i ch (ns ++ ns') r := by
  cases h with
  | unstarted h hf =>
    refine .unstarted (fun command hmem => ?_) hf
    rcases List.mem_append.mp hmem with hmem | hmem
    · exact absurd rfl (hns _ hmem)
    · exact h command hmem
  | attended hexec hstarted hasked =>
    exact .attended (List.mem_append_right ns hexec) hstarted (List.mem_append_right ns hasked)

def Concluded (i : Nat) (ch : Channel) (s t : Surroundings τ) (r : Except Failure Unit) : Prop :=
  ∃ ns k, Follows ns k s t ∧ Concludes i ch ns r

namespace Concluded

variable {i : Nat} {ch : Channel} {s t u : Surroundings τ} {r : Except Failure Unit}
  {exported : Bool}

theorem of_strays (h : Strays (Event.IsEarly i exported) s t) {f : Failure} (hf : f.IsMute) :
    Concluded i ch s t (.error f) := by
  obtain ⟨ns, k, hns, hearly⟩ := h
  exact ⟨ns, k, hns, .unstarted (fun command hmem => absurd rfl (hearly _ hmem)) hf⟩

theorem before (hs : Strays (Event.IsEarly i exported) s t) (h : Concluded i ch t u r) :
    Concluded i ch s u r := by
  obtain ⟨ns, k, hns, hearly⟩ := hs
  obtain ⟨ns', k', hns', hconcludes⟩ := h
  exact ⟨ns ++ ns', k + k', hns.trans hns', hconcludes.preceded hearly⟩

theorem after (h : Concluded i ch s t r) (hu : Follows [] 0 t u) : Concluded i ch s u r := by
  obtain ⟨ns, k, hns, hconcludes⟩ := h
  exact ⟨ns, k, hns.after hu, hconcludes⟩

end Concluded

section

variable {i k j : Nat} {u s : Surroundings Float}

theorem attended_result {ch : Channel} (hs : Carries i ch s) :
    ∃ command, (exec (tryFinally (do
        relay i
        forwardingResizes (← get).tty.isTty (Remote.wait i)) (Remote.close i) : Act Float Unit)
      s).1 = Remote.closeResult ch (Remote.waitResult ch command) := by
  obtain ⟨t, isTty, hrelay, hrest⟩ := exec_attended i s
  have ht : Carries i ch t := by
    have hkept := Carries.lasting.exec (relay_within i) .refl hs
    rwa [hrelay] at hkept
  have hwait {v : Surroundings Float} (hv : Carries i ch v) :
      Carries i ch (exec (Remote.wait i) v).2 :=
    Carries.lasting.exec (Remote.wait_within i).toSession .refl hv
  have hhandled := Lasting.handled Carries.lasting .forwarding ht
  rw [exec_forwardingResizes] at hrest
  split at hrest
  · obtain ⟨command, hresult⟩ := Remote.wait_result ht
    rw [Remote.tryFinally_close_result (hrest ▸ hwait ht), hrest]
    exact ⟨command, congrArg _ hresult⟩
  · obtain ⟨command, hresult⟩ := Remote.wait_result hhandled
    have hkept := Lasting.handled Carries.lasting t.signals.handler (hwait hhandled)
    rw [Remote.tryFinally_close_result (by rw [hrest]; exact hkept), hrest]
    exact ⟨command, congrArg _ hresult⟩

theorem work_concluded (hu : u.Discreet) (exported : Bool) (command : String) (env : Environment)
    (hs : Continues u k s ∧ Carries i (u.connection.script j) s) :
    Concluded i (u.connection.script j) s (exec (work i command env) s).2
      (exec (work i command env) s).1 := by
  have hbegin := Launch.begin_ensures i exported command env s
  have hmute := Launch.begin_mute hu command env s hs
  have htried := Launch.begin_tried command env s hs
  have hkept := Carries.lasting.exec (Launch.begin_within i command env).toSession .refl hs.2
  unfold Ensures at hbegin
  rw [work, exec_bind, exec_tryCatch]
  rcases e : exec (Launch.begin (.onChannel i) command env) s with ⟨f | ⟨⟩, t⟩ <;>
    rw [e] at hbegin htried hkept
  · -- The channel is closed again, which may take the place of the failure.
    obtain ⟨g, v, hclosed, hg, hv⟩ : ∃ g v, exec (do Remote.close i; throw f : Act Float Unit) t =
        (.error g, v) ∧ g.IsMute ∧ Follows [.channel i .close] 0 t v := by
      have hmade := Remote.close_makes i t
      have hcloses := Remote.close_mute hu t hkept
      rw [exec_bind]
      rcases e' : exec (Remote.close i) t with ⟨g | ⟨⟩, v⟩ <;> rw [e'] at hmade
      · exact ⟨g, v, rfl, hcloses g v e', hmade⟩
      · exact ⟨f, v, rfl, hmute f t e, hmade⟩
    dsimp only
    rw [hclosed]
    dsimp only
    by_cases hexec : (u.connection.script j).faults.exec = none
    · have hmade := Launch.begin_unstarted hs.2 hexec exported e
      exact .of_strays (hmade.trans (.of_follows hv (by simp [Event.IsEarly]))) hg
    · obtain ⟨ns, n, hns, -⟩ | ⟨request, -, hns⟩ := hbegin
      · exact ⟨_, _, hns.trans hv, .unstarted (fun _ _ => hexec) hg⟩
      · exact ⟨_, _, hns.trans hv, .unstarted (fun _ _ => hexec) hg⟩
  · obtain ⟨request, -, hns⟩ := hbegin
    have hexec : (u.connection.script j).faults.exec = none := by
      have hstood := List.findSome?_eq_none_iff.mp htried
        (.call (u.connection.script j).faults.exec Failure.isSsh) (by simp)
      exact Option.map_eq_none_iff.mp hstood
    obtain ⟨started, hresult⟩ := attended_result hkept
    dsimp only
    rw [hresult]
    have hasked : (.channel i (.exec command) : Event Float) ∈
        Launch.beginNotes i command env request ++
          [.channel i .exitStatus, .channel i .close] := by
      simp [Launch.beginNotes]
    exact ⟨_, _, hns.trans (attended_makes i t), .attended hasked hexec (by simp)⟩

/-- A lookup that finds the server side has succeeded, and no channel is left open. -/
theorem withServer_succeeds (session : Session) {o o' : ClientOptions} {t : Surroundings Float}
    (hs : Continues u 0 s) (h : exec (withServer session o) s = (.ok o', t)) :
    (o.bin = "" → (u.next 0).status = 0) ∧ Continues u (lookups o) t := by
  rw [withServer] at h
  rw [lookups]
  split at h
  · rename_i hbin
    rw [if_pos hbin]
    rw [exec_bind] at h
    rcases e : exec (findServer session.run) s with ⟨f | path, v⟩ <;> rw [e] at h
    · cases h
    · cases h
      have hfound := exec_findServer session.run s
      rw [e] at hfound
      rcases e' : exec (session.run s!"command -v {serverName}") s with ⟨f | bytes, w⟩ <;>
        rw [e'] at hfound
      · cases hfound
      · obtain ⟨hclose, hstatus⟩ := session.run_succeeds hs e'
        exact ⟨fun _ => hstatus, findServer_continues session hclose hs e⟩
  · rename_i hbin
    rw [if_neg hbin]
    cases h
    exact ⟨fun hbin' => absurd hbin' hbin, hs⟩

variable {m : Means Float} {o : ClientOptions}

theorem openTunnel_opensNone (hnonce : m.makeNonce.Modest) (session : Session) (o : ClientOptions)
    (s : Surroundings Float) : Reaches OpensNone s (exec (openTunnel m session o) s).2 := by
  rw [openTunnel]
  split
  · refine ((hnonce.reaches s).mono fun _ hc => hc.2).bind fun nonce t => ?_
    have hnegotiated := (Tunnel.negotiate_within session o.root nonce o.timeout9p m.share
      o.port9p).reaches .refl t
    exact (hnegotiated.mono fun _ hc => hc.opensNone).bind fun _ _ => .refl _
  · rw [exec_bind, exec_log]
    exact .change (c := .log loggerName .debug _) trivial s

theorem openTunnel_early (hnonce : m.makeNonce.Modest) (session : Session) (o : ClientOptions)
    (i : Nat) (s : Surroundings Float) :
    Ensures (openTunnel m session o) s
      (Strays (Event.IsEarly i (namespaceEnabled m.environment)) s)
      fun _ => Strays (Event.IsEarly i (namespaceEnabled m.environment)) s := by
  have hsource : Makes [] m.makeNonce := hnonce.follows
  rw [openTunnel]
  cases namespaceEnabled m.environment with
  | false =>
    rw [if_neg Bool.false_ne_true]
    exact ((Notes.of_makes (.log _ _ _)).ensures s).bind fun _ t ht => .of_quiet ht
  | true =>
    rw [if_pos rfl]
    refine ((Notes.of_makes hsource).ensures s).bind fun nonce t ht => ?_
    have hdrawn : Strays (Event.IsEarly i true) s t := .of_quiet ht
    refine (Ensures.since hdrawn
      (Tunnel.negotiate_ensures session o.root nonce o.timeout9p m.share i o.port9p t)).bind ?_
    rintro _ v ⟨p, q, -, -, -, -, hv, -⟩
    exact hdrawn.trans (.of_follows hv (by simp [Event.IsEarly]))

theorem openTunnel_mute (hnonce : m.makeNonce.Modest) (session : Session) (o : ClientOptions) :
    Mute Surroundings.Discreet (openTunnel m session o) := by
  rw [openTunnel]
  split
  · refine (hnonce.mute.mono fun _ _ => trivial).bind (R := fun _ => Surroundings.Discreet)
      (fun s hs x t e => ?_) fun nonce => ?_
    · have hreached := hnonce.reaches s
      rw [e] at hreached
      exact hreached.discreet hs
    · exact (Tunnel.negotiate_mute session _ _ _ _ _).next fun _ => .pure _
  · exact (Mute.log _ _ _).next fun _ => .pure _

theorem inSession_reaches (hnonce : m.makeNonce.Modest) (session : Session) (args : String)
    (s : Surroundings Float) :
    Reaches (fun _ => True) s (exec (inSession m session o args) s).2 := by
  have hany {C : Change Float → Prop} {s t : Surroundings Float} (h : Reaches C s t) :
      Reaches (fun _ => True) s t := h.mono fun _ _ => trivial
  rw [inSession_eq]
  refine (hany ((withServer_within session o).toSession.reaches .refl s)).bind fun o' t => ?_
  refine (hany (openTunnel_opensNone hnonce session o' t)).bind fun tunnel v => ?_
  refine Reaches.bind ?_ fun _ w => ?_
  · rw [exec_log]
    exact .change (c := .log loggerName .debug _) trivial v
  · refine (hany (session.openChannel_within.toSession.reaches .refl w)).bind fun i x => ?_
    exact hany ((work_within i _ _).reaches .refl x)

/-- What a session comes to, and that it is over before the command is started if the lookup
reports a status. -/
theorem inSession_concluded (hnonce : m.makeNonce.Modest) (hu : u.Discreet) (session : Session)
    (args : String) :
    let i := u.connection.channels.length + lookups o
    Concluded i (u.connection.script i) u (exec (inSession m session o args) u).2
        (exec (inSession m session o args) u).1 ∧
      (o.bin = "" → (u.next 0).status ≠ 0 → ∃ f, f.IsMute ∧
        (exec (inSession m session o args) u).1 = .error f ∧
        Strays (Event.IsEarly i (namespaceEnabled m.environment)) u
          (exec (inSession m session o args) u).2) := by
  intro i
  have hlookup := withServer_ensures session o (namespaceEnabled m.environment) u
  unfold Ensures at hlookup
  rw [inSession_eq, exec_bind]
  rcases e : exec (withServer session o) u with ⟨f | found, s⟩ <;> rw [e] at hlookup
  · have hf := withServer_mute (P := fun _ => True) session o u trivial f s e
    exact ⟨.of_strays hlookup hf, fun _ _ => ⟨f, hf, rfl, hlookup⟩⟩
  obtain ⟨-, hlookup⟩ := hlookup
  obtain ⟨hstatus, hs⟩ := withServer_succeeds session (.refl u) e
  refine ⟨?_, fun hbin hfailed => absurd (hstatus hbin) hfailed⟩
  have hearly : Strays (Event.IsEarly i (namespaceEnabled m.environment)) u s :=
    .of_follows hlookup (lookupNotes_early _ o _)
  have hdiscreet : s.Discreet := by
    have hreached := (withServer_within session o).toSession.reaches .refl u
    rw [e] at hreached
    exact hreached.discreet hu
  have htunnel := openTunnel_early hnonce session found i s
  have hkept := openTunnel_opensNone hnonce session found s
  unfold Ensures at htunnel
  dsimp only
  rw [exec_bind]
  rcases e' : exec (openTunnel m session found) s with ⟨f | ⟨port, extra⟩, t⟩ <;>
    rw [e'] at htunnel hkept
  · have hf := openTunnel_mute hnonce session found s hdiscreet f t e'
    exact .of_strays (hearly.trans htunnel) hf
  have hearly := hearly.trans htunnel
  have ht : Continues u (lookups o) t := hkept.keeps _ Continues.lasting hs
  dsimp only
  rw [exec_bind, exec_log]
  dsimp only
  generalize hlogged : t.logged loggerName .debug
    s!"command is {Text.quoted (Launch.command found args port)}" = v
  have hlog : Reaches (fun c => c.IsApart ∧ c.OpensNone) t v :=
    hlogged ▸ .change (c := .log _ _ _) ⟨trivial, trivial⟩ t
  have hearly := hearly.after (.of_reaches (fun _ hc => hc.1) hlog)
  have hv : Continues u (lookups o) v :=
    hlog.keeps _ (fun c hc => Continues.lasting c hc.2) ht
  have hopened := session.openChannel_ensures v
  unfold Ensures at hopened
  rw [exec_bind]
  rcases e'' : exec session.openChannel v with ⟨f | j, w⟩ <;> rw [e''] at hopened
  · have hmute := session.openChannel_mute v (hlog.discreet (hkept.discreet hdiscreet)) f w e''
    exact .of_strays (hearly.trans (hopened.mono (by simp [Event.IsEarly]))) hmute
  · obtain ⟨-, hw⟩ := hopened
    obtain ⟨rfl, hcontinues, hcarries⟩ := Session.opened_of_exec session hv e''
    refine .before (hearly.trans (.of_follows hw (by simp [Event.IsEarly]))) ?_
    exact work_concluded hu (namespaceEnabled m.environment) _ _ ⟨hcontinues, hcarries⟩

end

end Run

end Tether
