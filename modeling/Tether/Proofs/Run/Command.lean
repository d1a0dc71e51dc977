import Tether.Proofs.Run.Rendezvous

/-! # Notes of a command

What is noted when the server side is looked up and when the command is started,
attended and closed. A command that could not be started has left only notes that
come before its start.
-/

namespace Tether

open Act Change

variable {τ : Type}

namespace Launch

def setNotes (i : Nat) (env : Environment) : List (Event τ) :=
  env.map fun v => .channel i (.setenv v.1 v.2)

def beginNotes (i : Nat) (command : String) (env : Environment) (request : Bytes) :
    List (Event τ) :=
  setNotes i env ++ [.channel i .eventPending, .userMessage request, .channel i .waitForEvent,
    .channel i (.exec command)]

def Requests (request : Bytes) : Prop :=
  ∃ (number width height : Int), Pty.request? number term width height modes = some request

theorem propagate_makes (i : Nat) (env : Environment) :
    Makes (setNotes i env) (propagate (Remote.setenv i) env : Act τ Nat) := by
  induction env with
  | nil => exact .pure 0
  | cons v rest ih =>
    intro s
    have hset : Makes [.channel i (.setenv v.1 v.2)] (tryCatch (do
          Remote.setenv i v.1 v.2
          return 0) fun f => do
        Act.log loggerName .warning (refusedText v.1 f)
        return 1 : Act τ Nat) :=
      ((Remote.setenv_makes i v.1 v.2).bind fun _ => .pure 0).tryCatch fun f =>
        (Makes.log _ _ _).bind fun _ => .pure 1
    have hs := hset s
    obtain ⟨n, t, e⟩ := trySet_ok (Remote.setenv i) v s
    rw [e] at hs
    rw [propagate, exec_bind, e]
    exact hs.trans (ih.bind (fun _ => .pure _) t)

theorem requestPty_ensures (i : Nat) (exported : Bool) (width height : Int) (s : Surroundings τ) :
    Ensures (Remote.requestPty i term width height modes) s
      (Strays (Event.IsEarly i exported) s) fun _ t => ∃ request, Requests request ∧ Follows
        [.channel i .eventPending, .userMessage request, .channel i .waitForEvent] 0 s t := by
  refine Ensures.tryCatch (F := Strays (Event.IsEarly i exported) s) ?_ fun _ _ ht => ht
  unfold Ensures
  rw [Remote.sendPtyRequest, exec_bind, Remote.exec_channel]
  dsimp only
  cases hrequest :
      Pty.request? (s.connection.channels[i]?.getD {}).number term width height modes with
  | none => exact .refl s
  | some request =>
    have hcall (c : ChannelCall) (failure : Option Failure) :
        Notes [.channel i c] (Remote.call i c failure : Act τ Unit) :=
      .of_makes (Remote.call_makes i c failure)
    have hemit : Notes [.userMessage request] (Act.emit (.userMessage request) : Act τ Unit) :=
      .of_makes fun s => .note rfl s
    have hsent (faults : ChannelFaults) :
        Notes [.channel i .eventPending, .userMessage request, .channel i .waitForEvent] (do
          Remote.call i .eventPending faults.eventPending
          Act.emit (.userMessage request)
          Act.failIf faults.userMessage
          Remote.call i .waitForEvent faults.waitForEvent : Act τ Unit) := by
      refine (hcall _ _).bind fun _ => hemit.bind fun _ => ?_
      cases faults.userMessage with
      | some f => exact .throw f
      | none => exact (hcall _ _)
    refine (hsent (s.connection.channels[i]?.getD {}).faults s).mono (fun t ht => ht.mono ?_)
      fun _ t ht => ⟨request, ⟨_, _, _, hrequest⟩, ht⟩
    simp [Event.IsEarly]

def Begun (i : Nat) (command : String) (env : Environment) (s t : Surroundings τ) : Prop :=
  ∃ request, Requests request ∧ Follows (beginNotes i command env request) 0 s t

theorem setNotes_early (i : Nat) (exported : Bool) (env : Environment) :
    ∀ e ∈ (setNotes i env : List (Event τ)), e.IsEarly i exported := by
  intro e he
  obtain ⟨v, -, rfl⟩ := List.mem_map.mp he
  trivial

theorem begin_ensures (i : Nat) (exported : Bool) (command : String) (env : Environment)
    (s : Surroundings τ) :
    Ensures (begin (.onChannel i) command env) s
      (fun t => Strays (Event.IsEarly i exported) s t ∨ Begun i command env s t)
      fun _ t => Begun i command env s t := by
  obtain ⟨n, t, e⟩ := propagate_ok (Remote.setenv i) env s
  have ht : Follows (setNotes i env) 0 s t := by
    have hset := propagate_makes i env s
    rwa [e] at hset
  have hset : Strays (Event.IsEarly i exported) s t :=
    .of_follows ht (setNotes_early i exported env)
  have hrest : Ensures (do
      Remote.requestPty i term (sizeIn t).1 (sizeIn t).2 modes
      Act.log loggerName .debug s!"Start remote with command {Text.quoted command}"
      Remote.start i command) t
      (fun u => Strays (Event.IsEarly i exported) s u ∨ Begun i command env s u)
      fun _ u => Begun i command env s u := by
    refine ((Ensures.since hset (requestPty_ensures i exported _ _ t)).mono (fun _ => .inl)
      fun _ _ => id).bind ?_
    rintro ⟨⟩ u ⟨request, hrequest, hu⟩
    have hstart : Follows [.channel i (.exec command)] 0 u (exec (do
        Act.log loggerName .debug s!"Start remote with command {Text.quoted command}"
        Remote.start i command) u).2 := by
      have hlog := Makes.log loggerName .debug
        s!"Start remote with command {Text.quoted command}" u
      rw [exec_bind, exec_log]
      rw [exec_log] at hlog
      exact hlog.before (Remote.start_makes i command _)
    have hbegun := ht.trans (hu.trans hstart)
    exact (Ensures.of_snd (E := Begun i command env s) ⟨request, hrequest, hbegun⟩).mono
      (fun _ => .inr) fun _ _ => id
  have hsize : exec windowSize t = (.ok (sizeIn t), t) := rfl
  refine (Ensures.of_ok (Q := fun _ v => v = t) e rfl).bind ?_
  rintro _ u hu
  rw [hu]
  refine (Ensures.of_ok (Q := fun size v => size = sizeIn t ∧ v = t) hsize ⟨rfl, rfl⟩).bind ?_
  rintro size v ⟨rfl, hv⟩
  rw [hv]
  exact hrest

end Launch

namespace Run

open Launch

/-- The notes that end a command that was started: if it really runs, its status is asked for. -/
inductive Ending (i : Nat) : List (Event τ) → Prop
  | failed : Ending i [.channel i .close]
  | attended : Ending i [.channel i .exitStatus, .channel i .close]

def Worked (i : Nat) (command : String) (env : Environment) (s t : Surroundings τ) : Prop :=
  ∃ request ending, Requests request ∧ Ending i ending ∧
    Follows (beginNotes i command env request ++ ending) 0 s t

theorem relay_makes (i : Nat) : Makes [] (relay i : Act τ Unit) := by
  intro s
  exact Follows.after (.of_apart (c := .relayed _ _ _ _) trivial s)
    (.of_apart (c := .channel i _) trivial _)

theorem handled_follows (h : ResizeHandler) (s : Surroundings τ) : Follows [] 0 s (handled h s) :=
  (Follows.of_apart (c := .event (.handler h)) rfl s).after (.of_apart (c := .handler h) trivial _)

theorem attended_makes (i : Nat) :
    Makes [.channel i .exitStatus, .channel i .close] (tryFinally (do
      relay i
      forwardingResizes (← get).tty.isTty (Remote.wait i)) (Remote.close i) : Act τ Unit) := by
  show Makes ([.channel i .exitStatus] ++ [.channel i .close]) _
  refine .tryFinally ?_ (Remote.close_makes i)
  intro s
  obtain ⟨t, isTty, hrelay, hrest⟩ := exec_attended i s
  have hrelayed := relay_makes i s
  rw [hrelay] at hrelayed
  rw [hrest, exec_forwardingResizes]
  split
  · exact hrelayed.before (Remote.wait_makes i t)
  · have hwait := Remote.wait_makes i (handled .forwarding t)
    exact hrelayed.before ((handled_follows _ t).before (hwait.after (handled_follows _ _)))

theorem work_ensures (i : Nat) (exported : Bool) (command : String) (env : Environment)
    (s : Surroundings Float) :
    Ensures (work i command env) s
      (fun t => Strays (Event.IsEarly i exported) s t ∨ Worked i command env s t)
      fun _ => Worked i command env s := by
  have hclosed {t u : Surroundings Float}
      (ht : Strays (Event.IsEarly i exported) s t ∨ Begun i command env s t)
      (hu : Follows [.channel i .close] 0 t u) :
      Strays (Event.IsEarly i exported) s u ∨ Worked i command env s u := by
    rcases ht with ht | ⟨request, hrequest, ht⟩
    · exact .inl (ht.trans (.of_follows hu (by simp [Event.IsEarly])))
    · exact .inr ⟨request, _, hrequest, .failed, ht.trans hu⟩
  refine ((begin_ensures i exported command env s).tryCatch fun f t ht => ?_).bind ?_
  · have hclose := Ensures.of_snd (E := Follows [.channel i .close] 0 t) (Remote.close_makes i t)
    exact (hclose.mono (fun _ => hclosed ht) fun _ _ => id).bind fun _ u hu => hclosed ht hu
  · rintro ⟨⟩ t ⟨request, hrequest, ht⟩
    have hattended := ht.trans (attended_makes i t)
    exact (Ensures.of_snd (E := Worked i command env s)
      ⟨request, _, hrequest, .attended, hattended⟩).mono (fun _ => .inr) fun _ _ => id

def lookupNotes (n : Nat) (o : ClientOptions) : List (Event τ) :=
  if o.bin = "" then Session.runNotes n s!"command -v {serverName}" else []

theorem lookupNotes_early (n : Nat) (o : ClientOptions) (exported : Bool) :
    ∀ e ∈ (lookupNotes n o : List (Event τ)), e.IsEarly (n + lookups o) exported := by
  rw [lookupNotes, lookups]
  split <;> simp [Session.runNotes, Event.IsEarly]

theorem findServer_ensures (session : Session) (s : Surroundings τ) :
    let ns := Session.runNotes s.connection.channels.length s!"command -v {serverName}"
    Ensures (findServer session.run) s (Strays (· ∈ ns) s) fun _ => Follows ns 1 s := by
  intro ns
  refine (Ensures.tryCatch (session.run_ensures s!"command -v {serverName}" s) ?_).bind ?_
  · intro f t ht
    cases f <;> exact ht
  · intro output t ht
    split
    · exact ht
    · exact .of_follows ht fun _ => id

/-- The lookup leaves everything but the server side as the options have it. -/
theorem withServer_ensures (session : Session) (o : ClientOptions) (exported : Bool)
    (s : Surroundings Float) :
    Ensures (withServer session o) s
      (Strays (Event.IsEarly (s.connection.channels.length + lookups o) exported) s)
      fun o' t => (∃ server, o' = { o with bin := server } ∧ (o.bin ≠ "" → server = o.bin)) ∧
        Follows (lookupNotes s.connection.channels.length o) (lookups o) s t := by
  have hearly := lookupNotes_early (τ := Float) s.connection.channels.length o exported
  rw [withServer]
  by_cases hbin : o.bin = ""
  · simp only [lookups, lookupNotes, if_pos hbin] at hearly ⊢
    refine ((findServer_ensures session s).mono (fun t ht => ht.mono hearly) fun _ _ => id).bind ?_
    intro server t ht
    exact ⟨⟨server, rfl, fun h => absurd hbin h⟩, ht⟩
  · simp only [lookups, lookupNotes, if_neg hbin]
    exact ⟨⟨o.bin, rfl, fun _ => rfl⟩, .refl s⟩

end Run

end Tether
