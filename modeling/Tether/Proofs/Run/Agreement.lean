import Tether.Proofs.Footprint.Connect
import Tether.Proofs.Run.Command

/-! # Agreement

A run that starts its command has made the same notes as every other, in the same
order: the gate, the environment and the command line agree.
-/

namespace Tether

open Act Change

variable {τ : Type}

theorem Change.OfEntry.isApart {c : Change τ} (h : OfEntry c) : c.IsApart := by
  cases h <;> first | rfl | trivial

theorem Change.OfLogin.isApart {c : Change τ} (h : OfLogin c) : c.IsApart := by
  cases h with
  | dialling h => cases h <;> first | rfl | trivial
  | _ => rfl

/-- The program's own way to connect makes no notes. -/
theorem Program.connect_makes (env : Environment) (o : ClientOptions) :
    Makes [] ((means env).connect o) :=
  .of_within (connect_login env o) (fun _ => .refl _) fun _ => OfLogin.isApart

theorem Program.makeNonce_makes (env : Environment) : Makes [] (means env).makeNonce :=
  .of_within (makeNonce_within env) (fun _ => rfl) fun _ => id

namespace Launch

theorem mem_flag {name word : String} {value : Option String} (h : word ∈ flag name value) :
    word = name ∨ word ∈ value := by
  cases value with
  | none => simp [flag] at h
  | some v => simpa [flag, eq_comm] using h

theorem words_some (o : ClientOptions) (args port : String) :
    ["-port9p", port] <:+: words o args (some port) := by
  rw [words, List.append_assoc, List.append_assoc]
  exact List.infix_append _ _ _

/-- Only what the user supplies can look like the flag of a port. -/
theorem words_none {o : ClientOptions} {args : String} (h : "-port9p" ∈ words o args none) :
    "-port9p" ∈ [o.bin, o.mountopts, args] := by
  have hsize (n : Nat) : "-port9p" ≠ toString n := by
    intro he
    have hminus : '-' ∈ (toString n).toList := he ▸ List.mem_cons_self
    exact absurd (Tunnel.isDigit_of_mem_toString hminus) (by decide)
  simp only [words, List.mem_append] at h
  rcases h with (((h | h) | h) | h) | h
  · simp_all
  · simp [flag] at h
  · obtain h | h := mem_flag h
    · simp at h
    · split at h <;> simp_all
  · obtain h | h := mem_flag h
    · simp at h
    · split at h
      · simp at h
      · exact absurd (Option.some.inj h).symm (hsize _)
  · split at h <;> simp_all

end Launch

namespace Run

open Launch

/-- What is settled in the course of a run that starts its command. -/
structure Course where
  server : String
  /-- Where the tunnel is opened. -/
  start : Surroundings Float
  tunnel : List (Event Float)
  port : Option String
  extra : Environment
  request : Bytes
  ending : List (Event Float)

namespace Course

variable (c : Course) (m : Means Float) (o : ClientOptions) (n : Nat)

def words : List String :=
  Launch.words { o with bin := c.server } (arguments o m.environment) c.port

def command : String := String.intercalate " " (c.words m o)

/-- The notes of the whole run, where so many channels were there before. -/
def notes : List (Event Float) :=
  lookupNotes n o ++ (c.tunnel ++ (.openChannel (n + lookups o) ::
    (beginNotes (n + lookups o) (c.command m o) (m.environment ++ c.extra) c.request ++ c.ending)))

/-- The parts of a run agree, whose session is entered in `u`. -/
structure Agrees (session : Session) (u s : Surroundings Float) (es : List (Event Float)) :
    Prop where
  server : o.bin ≠ "" → c.server = o.bin
  found : exec (withServer session o) u = (.ok { o with bin := c.server }, c.start)
  told : ∀ port ∈ c.port, ["-port9p", port] <:+: c.words m o
  untold : c.port = none → "-port9p" ∈ c.words m o →
    "-port9p" ∈ [c.server, o.mountopts, arguments o m.environment]
  tunnel : Tunnelled m session { o with bin := c.server } c.start
    (lookupNotes s.connection.channels.length o) (lookups o) s es c.tunnel c.port c.extra
  request : Requests c.request
  ending : Ending (s.connection.channels.length + lookups o) c.ending

/-- Besides the tunnel, nothing asks for a nonce or a port. -/
theorem notes_of_nil (htunnel : c.tunnel = []) {i : Nat} (hending : Ending i c.ending) :
    .makeNonce ∉ c.notes m o n ∧ ∀ host port, .requestForward host port ∉ c.notes m o n := by
  rw [notes, htunnel, lookupNotes, beginNotes, setNotes]
  generalize c.ending = ending at hending ⊢
  cases hending <;> split <;> simp [Session.runNotes]

end Course

/-- The command was started in a run whose parts agree. -/
def Launched (m : Means Float) (o : ClientOptions) (session : Session)
    (u s t : Surroundings Float) : Prop :=
  ∃ c : Course, c.Agrees m o session u s t.events ∧
    Follows (c.notes m o s.connection.channels.length) (lookups o + 1) s t

/-- The command was not started, or it was in a run whose parts agree. -/
def IsConsistent (m : Means Float) (o : ClientOptions) (session : Session)
    (u s t : Surroundings Float) : Prop :=
  Strays (Event.IsEarly (s.connection.channels.length + lookups o)
    (namespaceEnabled m.environment)) s t ∨ Launched m o session u s t

section

variable {m : Means Float} {o : ClientOptions} {session : Session} {s t u v : Surroundings Float}

theorem Launched.after (h : Launched m o session v s t) (hu : Follows [] 0 t u) :
    Launched m o session v s u := by
  obtain ⟨c, hc, ht⟩ := h
  exact ⟨c, { hc with tunnel := hc.tunnel.later hu.prefix_events }, ht.after hu⟩

theorem Launched.before (hs : Follows [] 0 s t) (h : Launched m o session v t u) :
    Launched m o session v s u := by
  have hchannels : t.connection.channels.length = s.connection.channels.length := hs.channels
  rw [Launched, hchannels] at h
  obtain ⟨c, hc, hu⟩ := h
  have htunnel := hc.tunnel.preceded hs
  rw [List.nil_append, Nat.zero_add, hchannels] at htunnel
  have hagrees : c.Agrees m o session v s u.events :=
    { hc with tunnel := htunnel, ending := hchannels ▸ hc.ending }
  exact ⟨c, hagrees, hs.before hu⟩

theorem IsConsistent.after (h : IsConsistent m o session v s t) (hu : Follows [] 0 t u) :
    IsConsistent m o session v s u :=
  h.imp (·.after hu) (·.after hu)

theorem IsConsistent.before (hs : Follows [] 0 s t) (h : IsConsistent m o session v t u) :
    IsConsistent m o session v s u := by
  have hchannels : t.connection.channels.length = s.connection.channels.length := hs.channels
  rw [IsConsistent, hchannels] at h
  exact h.imp (Strays.of_quiet hs).trans (.before hs)

end

variable {m : Means Float} {o : ClientOptions}

theorem inSession_ensures (hsource : Makes [] m.makeNonce) (session : Session)
    (s : Surroundings Float) :
    Ensures (inSession m.recorded session o (arguments o m.environment)) s
      (IsConsistent m o session s s) fun _ => Launched m o session s s := by
  let i := s.connection.channels.length + lookups o
  let exported := namespaceEnabled m.environment
  have hearly {α : Type} {a : Act Float α} {t : Surroundings Float}
      {Q : α → Surroundings Float → Prop} (hr : Strays (Event.IsEarly i exported) s t)
      (h : Ensures a t (Strays (Event.IsEarly i exported) t) Q) :
      Ensures a t (IsConsistent m o session s s) Q :=
    (Ensures.since hr h).mono (fun _ => .inl) fun _ _ => id
  rw [inSession_eq]
  refine ((withServer_ensures session o exported s).exec_eq.mono (fun _ => .inl)
    fun _ _ => id).bind ?_
  rintro _ t ⟨hfound, ⟨server, rfl, hserver⟩, ht⟩
  have hmade : Strays (Event.IsEarly i exported) s t := .of_follows ht (lookupNotes_early _ o _)
  refine (hearly hmade (openTunnel_ensures hsource session _ i t)).bind ?_
  rintro ⟨port, extra⟩ u ⟨ns, hu, htunnel⟩
  have hmade := hmade.trans (.of_follows hu (htunnel.early i))
  refine (hearly hmade ((Notes.of_makes (.log _ _ _)).ensures u)).bind fun _ v hv => ?_
  have hmade := hmade.after hv
  refine (hearly hmade ((session.openChannel_ensures v).mono
    (fun _ hw => hw.mono (by simp [Event.IsEarly])) fun _ _ => id)).bind ?_
  rintro _ w ⟨rfl, hw⟩
  have hindex : v.connection.channels.length = i := (ht.trans (hu.after hv)).channels
  rw [hindex] at hw ⊢
  have hmade := hmade.trans (.of_follows hw (by simp [Event.IsEarly]))
  have hlaunched {x : Surroundings Float} (hx : Worked i (Launch.command
      { o with bin := server } (arguments o m.environment) port) (m.environment ++ extra) w x) :
      Launched m o session s s x := by
    obtain ⟨request, ending, hrequest, hending, hx⟩ := hx
    have hall := ht.trans ((hu.after hv).trans (hw.trans hx))
    have htunnel := (htunnel.preceded ht).later (hv.trans (hw.trans hx)).prefix_events
    rw [List.append_nil] at htunnel
    refine ⟨⟨server, t, ns, port, extra, request, ending⟩, ⟨hserver, hfound, ?_, ?_,
      htunnel, hrequest, hending⟩, hall⟩
    · rintro p rfl
      exact Launch.words_some _ _ p
    · rintro rfl
      exact Launch.words_none
  refine (work_ensures i exported _ _ w).mono (fun x hx => ?_) fun _ x => hlaunched
  exact hx.imp hmade.trans hlaunched

theorem judged_follows (f : Failure) (s : Surroundings τ) : Follows [] 0 s (judged f s) := by
  obtain he | ⟨text, he⟩ := judged_cases f s <;> rw [he]
  · exact .refl s
  · exact .of_apart (c := .log loggerName .error text) trivial s

theorem restored_follows (s : Surroundings τ) : Follows [] 0 s s.restored := by
  refine .of_events (Terminal.restored_events s) ?_ (Terminal.restored_connection s)
  rw [TerminalState.putBack]
  split <;> simp [Event.isNote]

theorem entry_follows {s t : Surroundings τ} (h : Reaches OfEntry s t) : Follows [] 0 s t :=
  .of_reaches (fun _ h => h.isApart) h

theorem ended_follows (s : Surroundings τ) : Follows [] 0 s (ended s.restored) :=
  (restored_follows s).after (.of_apart (c := .event .closeClient) rfl _)

theorem connect_follows (hconnect : Makes [] (m.connect o)) (s : Surroundings Float) :
    Follows [] 0 s (exec (m.connect o) s.captured).2 :=
  (entry_follows (Terminal.capture_within.reaches .refl s)).before (hconnect _)

/-- The run has a session, which is entered in `u`. -/
def Enters (m : Means Float) (o : ClientOptions) (s : Surroundings Float) (session : Session)
    (u : Surroundings Float) : Prop :=
  ∃ t, exec (m.connect o) s.captured = (.ok session, t) ∧ exec Terminal.enterRaw t = (.ok (), u)

theorem Enters.follows {session : Session} {s u : Surroundings Float} (h : Enters m o s session u)
    (hconnect : Makes [] (m.connect o)) : Follows [] 0 s u := by
  obtain ⟨t, hconnected, hentered⟩ := h
  have hreached := connect_follows hconnect s
  have hentry := entry_follows (Terminal.enterRaw_within.reaches .refl t)
  rw [hconnected] at hreached
  rw [hentered] at hentry
  exact hreached.after hentry

theorem client_consistent (hconnect : Makes [] (m.connect o)) (hsource : Makes [] m.makeNonce)
    (s : Surroundings Float) :
    Strays (Event.IsEarly (s.connection.channels.length + lookups o)
        (namespaceEnabled m.environment)) s (exec (client m.recorded o) s).2 ∨
      ∃ session u, Enters m o s session u ∧
        Launched m o session u s (exec (client m.recorded o) s).2 := by
  have hconnected := connect_follows hconnect s
  rw [exec_client, show m.recorded.connect = m.connect from rfl]
  rcases e : exec (m.connect o) s.captured with ⟨f | session, t⟩ <;> rw [e] at hconnected
  · have hover := (judged_follows f t).after (restored_follows _)
    exact .inl (.of_quiet (hconnected.after hover))
  · have hentry := entry_follows (Terminal.enterRaw_within.reaches .refl t)
    dsimp only
    rw [exec_attempt]
    rcases e' : exec Terminal.enterRaw t with ⟨f | ⟨⟩, u⟩ <;> rw [e'] at hentry
    · have hover := (hconnected.after hentry).after (judged_follows f u)
      exact .inl (.of_quiet (hover.after (ended_follows _)))
    · have henters : Enters m o s session u := ⟨t, e, e'⟩
      have hinside := ((inSession_ensures (o := o) hsource session u).mono (fun _ => id)
        fun _ _ => .inr).snd
      dsimp only
      rw [show m.recorded.environment = m.environment from rfl]
      rcases e : exec (inSession m.recorded session o (arguments o m.environment)) u with
        ⟨f | ⟨⟩, v⟩ <;> rw [e] at hinside
      · have hover := (restored_follows v).after (judged_follows f _)
        have hconsistent := (hinside.after (hover.after (ended_follows _))).before
          (henters.follows hconnect)
        exact hconsistent.imp id fun h => ⟨session, u, henters, h⟩
      · have hover := (restored_follows v).after (ended_follows _)
        have hconsistent := (hinside.after hover).before (henters.follows hconnect)
        exact hconsistent.imp id fun h => ⟨session, u, henters, h⟩

theorem client_launched (hconnect : Makes [] (m.connect o)) (hsource : Makes [] m.makeNonce)
    {session : Session} {s u v : Surroundings Float} (henters : Enters m o s session u)
    (hended : exec (inSession m.recorded session o (arguments o m.environment)) u = (.ok (), v)) :
    Launched m o session u s (exec (client m.recorded o) s).2 := by
  have hlaunched := (inSession_ensures (o := o) hsource session u).ok hended
  have hreached := henters.follows hconnect
  obtain ⟨t, hconnected, hentered⟩ := henters
  rw [exec_client, show m.recorded.connect = m.connect from rfl, hconnected]
  dsimp only
  rw [exec_attempt, hentered, show m.recorded.environment = m.environment from rfl]
  dsimp only
  rw [hended]
  have hover := (restored_follows v).after (ended_follows v.restored)
  exact (hlaunched.after hover).before hreached

/-- Whatever becomes of a run, nothing is done for a tunnel that is not wanted. If the command was
started, the notes are those of a course whose parts agree, in the order of the course. -/
theorem client_agreement (hconnect : Makes [] (m.connect o)) (hsource : Makes [] m.makeNonce)
    (s : Surroundings Float) :
    ∃ ns k, Follows ns k s (exec (client m.recorded o) s).2 ∧
      (namespaceEnabled m.environment = false →
        .makeNonce ∉ ns ∧ ∀ host port, .requestForward host port ∉ ns) ∧
      ((∃ command, .channel (s.connection.channels.length + lookups o) (.exec command) ∈ ns) →
        ∃ (c : Course) (session : Session) (u : Surroundings Float), Enters m o s session u ∧
          ns = c.notes m o s.connection.channels.length ∧
          c.Agrees m o session u s (exec (client m.recorded o) s).2.events) := by
  obtain ⟨ns, k, hns, hearly⟩ | ⟨session, u, henters, c, hc, hns⟩ :=
    client_consistent hconnect hsource s
  · refine ⟨ns, k, hns, fun hdisabled => ⟨fun h => ?_, fun host port h => ?_⟩, ?_⟩
    · exact Bool.false_ne_true (hdisabled.symm.trans (hearly _ h))
    · exact Bool.false_ne_true (hdisabled.symm.trans (hearly _ h))
    · rintro ⟨command, h⟩
      exact absurd rfl (hearly _ h)
  · refine ⟨_, _, hns, fun hdisabled => ?_, fun _ => ⟨c, session, u, henters, rfl, hc⟩⟩
    exact c.notes_of_nil m o _ (hc.tunnel.eq_nil hdisabled) hc.ending

/-- There is a connection at once, and the environment holds the nonce of an earlier session. -/
def exporting : Means Float where
  connect o := pure ⟨o.host, o.port⟩
  makeNonce := Nonce.generate Program.randomBytes
  environment := [("HOME", "/root"), ("CPUNONCE", "stale")]

/-- Nothing fails on the remote side, but that a variable is refused. -/
def willing : Surroundings Float where
  clock := 0
  connection := {
    forward := .ok 40123
    script := fun _ => { setenv := fun _ => some (.outside .ssh "Channel closed.") } }
  random := .ok (List.replicate nonceBytes 171)

def ordinary : ClientOptions := { host := "far", keyFile := {} }

theorem willing_stands : Trial.firstEnd (trials exporting.recorded ordinary willing) = none := rfl

theorem exec_willing (session : Session) : ∃ u,
    exec (inSession exporting.recorded session ordinary (arguments ordinary exporting.environment))
      willing = (.ok (), u) := by
  have hcalm : Calm willing := ⟨rfl, fun _ => rfl, rfl⟩
  have hdraws : DrawsRandom exporting.recorded := (DrawsRandom.of_eq rfl).recorded
  obtain ⟨⟨⟩, u, e⟩ := Tried.exists_ok (inSession_tried hdraws hcalm session _) willing_stands
    (.refl willing)
  exact ⟨u, e⟩

theorem client_agreement_willing :
    Makes [] (exporting.connect ordinary) ∧ Makes [] exporting.makeNonce ∧
      ∃ (c : Course) (session : Session) (u : Surroundings Float) (k : Nat),
        Enters exporting ordinary willing session u ∧
        Follows (c.notes exporting ordinary 0) k willing
          (exec (client exporting.recorded ordinary) willing).2 ∧
        c.Agrees exporting ordinary session u willing
          (exec (client exporting.recorded ordinary) willing).2.events ∧
        c.command exporting ordinary = "cpud -remote -bin cpud -port9p 40123" := by
  have hconnect : Makes [] (exporting.connect ordinary) := .pure _
  have hsource : Makes [] exporting.makeNonce := Program.makeNonce_makes []
  obtain ⟨ns, k, hns, -, hstarted⟩ := client_agreement hconnect hsource willing
  obtain ⟨v, hended⟩ := exec_willing ⟨"far", 23⟩
  have hwilling : Enters exporting ordinary willing ⟨"far", 23⟩ willing := ⟨_, rfl, rfl⟩
  obtain ⟨c, -, hc⟩ := client_launched hconnect hsource hwilling hended
  have hnotes := hns.unique hc
  obtain ⟨d, session, u, henters, hcourse, hd⟩ := hstarted ⟨c.command exporting ordinary, by
    rw [hnotes]
    simp [Course.notes, beginNotes]⟩
  obtain ⟨p, hp, hport⟩ := hd.tunnel.port_eq rfl
  refine ⟨hconnect, hsource, d, session, u, k, henters, hcourse ▸ hns, hd, ?_⟩
  obtain rfl : 40123 = p := Int.ofNat.inj (Except.ok.inj hp)
  rw [Course.command, Course.words, hport, hd.server (by decide)]
  rfl

end Run

end Tether
