import Tether.Proofs.Run.Operations

/-! # Notes of a run

Of the calls that a run makes, those count as notes that the remote side has to
agree with: the nonce that is drawn, the port that is asked for, and everything
that is done with channels. An operation makes the notes it is known for, or it
fails and has made notes of one kind only.
-/

namespace Tether

open Act Change

variable {τ α β : Type}

/-- A call that the remote side has to agree with. -/
def Event.isNote : Event τ → Bool
  | .makeNonce | .requestForward _ _ | .openChannel _ | .channel _ _ | .userMessage _ => true
  | _ => false

def Change.IsApart : Change τ → Prop
  | .event e => e.isNote = false
  | .openChannel _ => False
  | _ => True

/-- Between two surroundings these notes are made and so many channels are asked for. The port
that the remote host allocates and the connections that it forwards stay what they are. -/
structure Follows (ns : List (Event τ)) (k : Nat) (s t : Surroundings τ) : Prop where
  events : ∃ es, t.events = s.events ++ es ∧ es.filter Event.isNote = ns
  channels : t.connection.channels.length = s.connection.channels.length + k
  forward : t.connection.forward = s.connection.forward
  arrivals : t.connection.arrivals = s.connection.arrivals

namespace Follows

variable {ns ns' : List (Event τ)} {j k : Nat} {s t u : Surroundings τ}

theorem refl (s : Surroundings τ) : Follows [] 0 s s :=
  ⟨⟨[], (List.append_nil _).symm, rfl⟩, rfl, rfl, rfl⟩

theorem trans (h : Follows ns j s t) (h' : Follows ns' k t u) :
    Follows (ns ++ ns') (j + k) s u := by
  obtain ⟨es, hes, hns⟩ := h.events
  obtain ⟨es', hes', hns'⟩ := h'.events
  refine ⟨⟨es ++ es', ?_, ?_⟩, ?_, h'.forward.trans h.forward, h'.arrivals.trans h.arrivals⟩
  · rw [hes', hes, List.append_assoc]
  · rw [List.filter_append, hns, hns']
  · rw [h'.channels, h.channels, Nat.add_assoc]

theorem before (h : Follows [] 0 s t) (h' : Follows ns k t u) : Follows ns k s u := by
  have hall := h.trans h'
  rwa [List.nil_append, Nat.zero_add] at hall

theorem after (h : Follows ns k s t) (h' : Follows [] 0 t u) : Follows ns k s u := by
  have hall := h.trans h'
  rwa [List.append_nil] at hall

theorem unique (h : Follows ns j s t) (h' : Follows ns' k s t) : ns = ns' := by
  obtain ⟨es, hes, rfl⟩ := h.events
  obtain ⟨es', hes', rfl⟩ := h'.events
  rw [List.append_cancel_left (hes.symm.trans hes')]

theorem prefix_events (h : Follows ns k s t) : s.events <+: t.events := by
  obtain ⟨es, hes, -⟩ := h.events
  exact ⟨es, hes.symm⟩

theorem note {e : Event τ} (he : e.isNote = true) (s : Surroundings τ) :
    Follows [e] 0 s ((Change.event e).apply s) :=
  ⟨⟨[e], rfl, by rw [List.filter_cons_of_pos he, List.filter_nil]⟩, rfl, rfl, rfl⟩

theorem asked (i : Nat) (ch : Channel) (s : Surroundings τ) :
    Follows [.openChannel i] 1 s (Session.asked i ch s) :=
  ⟨⟨[.openChannel i], rfl, rfl⟩, by simp [Session.asked, Change.apply], rfl, rfl⟩

theorem of_apart {c : Change τ} (hc : c.IsApart) (s : Surroundings τ) :
    Follows [] 0 s (c.apply s) := by
  cases c with
  | event e =>
    have he : ¬ e.isNote = true := Bool.eq_false_iff.mp hc
    exact ⟨⟨[e], rfl, by rw [List.filter_cons_of_neg he, List.filter_nil]⟩, rfl, rfl, rfl⟩
  | openChannel => exact hc.elim
  | log =>
    refine ⟨⟨[], ?_, rfl⟩, ?_, ?_, ?_⟩ <;> simp [Change.apply]
  | channel i f =>
    exact ⟨⟨[], (List.append_nil _).symm, rfl⟩, List.length_modify _ _ _, rfl, rfl⟩
  | _ => exact ⟨⟨[], (List.append_nil _).symm, rfl⟩, rfl, rfl, rfl⟩

/-- A step that leaves the connection alone and makes no note. -/
theorem of_events {es : List (Event τ)} (hevents : t.events = s.events ++ es)
    (hes : ∀ e ∈ es, e.isNote = false) (hconnection : t.connection = s.connection) :
    Follows [] 0 s t := by
  refine ⟨⟨es, hevents, ?_⟩, ?_, ?_, ?_⟩
  · exact List.filter_eq_nil_iff.mpr fun e he => Bool.eq_false_iff.mp (hes e he)
  all_goals rw [hconnection]
  rfl

theorem of_reaches {C : Change τ → Prop} (hC : ∀ c, C c → c.IsApart) (h : Reaches C s t) :
    Follows [] 0 s t :=
  h.keeps (Follows [] 0 s) (fun c hc _ hs => hs.after (.of_apart (hC c hc) _)) (.refl s)

end Follows

/-- Only notes of one kind are made. -/
def Strays (P : Event τ → Prop) (s t : Surroundings τ) : Prop :=
  ∃ ns k, Follows ns k s t ∧ ∀ e ∈ ns, P e

namespace Strays

variable {P Q : Event τ → Prop} {ns : List (Event τ)} {k : Nat} {s t u : Surroundings τ}

theorem of_follows (h : Follows ns k s t) (hP : ∀ e ∈ ns, P e) : Strays P s t := ⟨ns, k, h, hP⟩

theorem of_quiet (h : Follows [] k s t) : Strays P s t := of_follows h (by simp)

theorem refl (s : Surroundings τ) : Strays P s s := of_quiet (.refl s)

theorem mono (h : Strays P s t) (hP : ∀ e, P e → Q e) : Strays Q s t := by
  obtain ⟨ns, k, hns, hkind⟩ := h
  exact ⟨ns, k, hns, fun e he => hP e (hkind e he)⟩

theorem trans (h : Strays P s t) (h' : Strays P t u) : Strays P s u := by
  obtain ⟨ns, j, hns, hkind⟩ := h
  obtain ⟨ns', k, hns', hkind'⟩ := h'
  exact ⟨ns ++ ns', j + k, hns.trans hns', fun e he => (List.mem_append.mp he).elim (hkind e)
    (hkind' e)⟩

theorem after (h : Strays P s t) (h' : Follows [] 0 t u) : Strays P s u :=
  h.trans (of_quiet h')

end Strays

namespace Act

/-- Ends with a value or with a failure, and in either way something holds. -/
def Ensures (a : Act τ α) (s : Surroundings τ) (E : Surroundings τ → Prop)
    (Q : α → Surroundings τ → Prop) : Prop :=
  match exec a s with
  | (.ok x, t) => Q x t
  | (.error _, t) => E t

namespace Ensures

variable {a : Act τ α} {s : Surroundings τ} {E F : Surroundings τ → Prop}
  {Q R : α → Surroundings τ → Prop}

theorem mono (h : Ensures a s E Q) (hE : ∀ t, E t → F t) (hQ : ∀ x t, Q x t → R x t) :
    Ensures a s F R := by
  unfold Ensures at h ⊢
  rcases e : exec a s with ⟨f | x, t⟩ <;> rw [e] at h
  · exact hE t h
  · exact hQ x t h

theorem of_ok {x : α} {t : Surroundings τ} (e : exec a s = (.ok x, t)) (h : Q x t) :
    Ensures a s E Q := by
  unfold Ensures
  rw [e]
  exact h

theorem ok {x : α} {t : Surroundings τ} (h : Ensures a s E Q) (e : exec a s = (.ok x, t)) :
    Q x t := by
  unfold Ensures at h
  rwa [e] at h

theorem exec_eq (h : Ensures a s E Q) :
    Ensures a s E fun x t => exec a s = (.ok x, t) ∧ Q x t := by
  unfold Ensures at h ⊢
  rcases e : exec a s with ⟨f | x, t⟩ <;> rw [e] at h
  · exact h
  · exact ⟨rfl, h⟩

theorem of_snd (h : E (exec a s).2) : Ensures a s E fun _ => E := by
  unfold Ensures
  rcases e : exec a s with ⟨f | x, t⟩ <;> rw [e] at h <;> exact h

theorem snd (h : Ensures a s E fun _ => E) : E (exec a s).2 := by
  unfold Ensures at h
  rcases e : exec a s with ⟨f | x, t⟩ <;> rw [e] at h <;> exact h

theorem bind {k : α → Act τ β} {R : β → Surroundings τ → Prop} (h : Ensures a s E Q)
    (hk : ∀ x t, Q x t → Ensures (k x) t E R) : Ensures (a >>= k) s E R := by
  unfold Ensures at h ⊢
  rw [exec_bind]
  rcases e : exec a s with ⟨f | x, t⟩ <;> rw [e] at h
  · exact h
  · exact hk x t h

theorem tryCatch {k : Failure → Act τ α} (h : Ensures a s F Q)
    (hk : ∀ f t, F t → Ensures (k f) t E Q) : Ensures (MonadExcept.tryCatch a k) s E Q := by
  unfold Ensures at h ⊢
  rw [exec_tryCatch]
  rcases e : exec a s with ⟨f | x, t⟩ <;> rw [e] at h
  · exact hk f t h
  · exact h

theorem since {P : Event τ → Prop} {r : Surroundings τ} (hmade : Strays P r s)
    (h : Ensures a s (Strays P s) Q) : Ensures a s (Strays P r) Q :=
  h.mono (fun _ => hmade.trans) fun _ _ => id

end Ensures

/-- Makes these notes whatever becomes of it. -/
def Makes (ns : List (Event τ)) (a : Act τ α) : Prop := ∀ s, Follows ns 0 s (exec a s).2

namespace Makes

variable {ns ns' : List (Event τ)} {a : Act τ α}

theorem pure (x : α) : Makes [] (Pure.pure x : Act τ α) := .refl

theorem throw (f : Failure) : Makes [] (MonadExcept.throw f : Act τ α) := .refl

theorem of_within {V : Surroundings τ → Surroundings τ → Prop} {C : Change τ → Prop}
    (h : Within V C a) (hV : ∀ s, V s s) (hC : ∀ c, C c → c.IsApart) : Makes [] a :=
  fun s => .of_reaches hC (h.reaches hV s)

theorem log (logger : String) (level : Level) (text : String) :
    Makes [] (log logger level text : Act τ Unit) := by
  intro s
  rw [exec_log]
  exact .of_apart (c := .log logger level text) trivial s

theorem bind {k : α → Act τ β} (h : Makes ns a) (hk : ∀ x, Makes [] (k x)) :
    Makes ns (a >>= k) := by
  intro s
  have ha := h s
  rw [exec_bind]
  rcases e : exec a s with ⟨f | x, t⟩ <;> rw [e] at ha
  · exact ha
  · exact ha.after (hk x t)

theorem tryCatch {k : Failure → Act τ α} (h : Makes ns a) (hk : ∀ f, Makes [] (k f)) :
    Makes ns (MonadExcept.tryCatch a k) := by
  intro s
  have ha := h s
  rw [exec_tryCatch]
  rcases e : exec a s with ⟨f | x, t⟩ <;> rw [e] at ha
  · exact ha.after (hk f t)
  · exact ha

theorem tryFinally {b : Act τ β} (h : Makes ns a) (hb : Makes ns' b) :
    Makes (ns ++ ns') (tryFinally a b) := by
  intro s
  rw [exec_tryFinally_snd]
  exact (h s).trans (hb _)

end Makes

/-- Makes these notes; if it fails, it has made none but some of them. -/
def Notes (ns : List (Event τ)) (a : Act τ α) : Prop :=
  ∀ s, Ensures a s (Strays (· ∈ ns) s) fun _ => Follows ns 0 s

namespace Notes

variable {ns ns' : List (Event τ)} {a : Act τ α}

theorem of_makes (h : Makes ns a) : Notes ns a :=
  fun s => (Ensures.of_snd (E := Follows ns 0 s) (h s)).mono
    (fun _ ht => .of_follows ht fun _ => id) fun _ _ => id

theorem pure (x : α) : Notes [] (Pure.pure x : Act τ α) := .of_makes (.pure x)

theorem throw (f : Failure) : Notes ns (MonadExcept.throw f : Act τ α) := fun s => .refl s

theorem ensures {P : Event τ → Prop} (h : Notes [] a) (s : Surroundings τ) :
    Ensures a s (Strays P s) fun _ => Follows [] 0 s :=
  (h s).mono (fun _ ht => ht.mono (by simp)) fun _ _ => id

theorem bind {k : α → Act τ β} (h : Notes ns a) (hk : ∀ x, Notes ns' (k x)) :
    Notes (ns ++ ns') (a >>= k) := by
  intro s
  refine Ensures.bind ((h s).mono (fun t ht => ht.mono fun _ => List.mem_append_left ns')
    fun _ _ => id) fun x t ht => ?_
  refine (hk x t).mono (fun u hu => ?_) fun _ u hu => ht.trans hu
  have hmade : Strays (· ∈ ns ++ ns') s t := ⟨ns, 0, ht, fun _ => List.mem_append_left ns'⟩
  exact hmade.trans (hu.mono fun _ => List.mem_append_right ns)

theorem tryCatch_throw (h : Notes ns a) (g : Failure → Failure) :
    Notes ns (MonadExcept.tryCatch a fun f => MonadExcept.throw (g f)) :=
  fun s => (h s).tryCatch fun _ _ ht => ht

theorem get {k : Surroundings τ → Act τ α} (hk : ∀ s, Notes ns (k s)) :
    Notes ns (MonadState.get >>= k) :=
  fun s => hk s s

/-- The last part of an action makes its notes whatever becomes of the first. -/
theorem tryFinally {b : Act τ β} (h : Notes ns a) (hb : Notes ns' b) :
    Notes (ns ++ ns') (tryFinally a b) := by
  intro s
  have ha := h s
  unfold Ensures at ha ⊢
  rw [exec_tryFinally]
  rcases e : exec a s with ⟨r, t⟩
  rw [e] at ha
  have hmade : Strays (· ∈ ns ++ ns') s t := by
    cases r with
    | error f => exact ha.mono fun _ => List.mem_append_left ns'
    | ok x => exact ⟨ns, 0, ha, fun _ => List.mem_append_left ns'⟩
  have hlast := hb t
  unfold Ensures at hlast
  dsimp only
  rcases e' : exec b t with ⟨f | y, u⟩ <;> rw [e'] at hlast
  · exact hmade.trans (hlast.mono fun _ => List.mem_append_right ns)
  · cases r with
    | error f => exact hmade.trans ⟨ns', 0, hlast, fun _ => List.mem_append_right ns⟩
    | ok x => exact ha.trans hlast

end Notes

end Act

namespace Remote

variable (i : Nat)

theorem makes_channel {ns : List (Event τ)} {k : Channel → Act τ α} (hk : ∀ ch, Makes ns (k ch)) :
    Makes ns (channel i >>= k) :=
  fun s => hk _ s

theorem call_makes (c : ChannelCall) (failure : Option Failure) :
    Makes [.channel i c] (call i c failure : Act τ Unit) := by
  intro s
  rw [exec_call]
  exact .note rfl s

theorem changeChannel_makes (f : Channel → Channel) :
    Makes [] (changeChannel i f : Act τ Unit) :=
  fun s => .of_apart (c := .channel i f) trivial s

theorem exitStatus_makes : Makes [.channel i .exitStatus] (exitStatus i : Act τ Int) :=
  makes_channel i fun _ => (call_makes i _ _).bind fun _ => .pure _

theorem close_makes : Makes [.channel i .close] (close i : Act τ Unit) :=
  makes_channel i fun _ => call_makes i _ _

theorem output_makes : Makes [.channel i .makeFile] (output i : Act τ Bytes) := by
  refine makes_channel i fun _ => (call_makes i _ _).bind fun _ => ?_
  refine makes_channel i fun ch => (changeChannel_makes i _).bind fun _ => ?_
  cases ch.stdout.readAll.1 with
  | error f => exact .throw f
  | ok bytes => exact .pure bytes

theorem setenv_makes (name value : String) :
    Makes [.channel i (.setenv name value)] (setenv i name value : Act τ Unit) :=
  makes_channel i fun _ => call_makes i _ _

theorem wait_makes : Makes [.channel i .exitStatus] (wait i : Act τ Unit) := by
  refine (exitStatus_makes i).bind fun status => ?_
  dsimp only
  split
  · exact makes_channel i fun _ => .throw _
  · split
    · exact .throw _
    · exact .pure _

theorem start_makes (command : String) :
    Makes [.channel i (.exec command)] (start i command : Act τ Unit) := by
  intro s
  rw [start, exec_bind, exec_changeChannel]
  have hset := changeChannel_makes i (fun ch => { ch with command := some command }) s
  have hstart : Makes [.channel i (.exec command)] (tryCatch (do
      call i (.exec command) (← channel i).faults.exec) fun f =>
    throw (if f.isSsh then .trouble (.notRun command f.text) else f) : Act τ Unit) :=
    (makes_channel i fun _ => call_makes i _ _).tryCatch fun _ => .throw _
  exact hset.before (hstart _)

end Remote

namespace Session

def runNotes (i : Nat) (command : String) : List (Event τ) :=
  [.openChannel i, .channel i (.exec command), .channel i .makeFile, .channel i .exitStatus,
    .channel i .close]

theorem openChannel_ensures (session : Session) (s : Surroundings τ) :
    Ensures session.openChannel s
      (Strays (· = .openChannel s.connection.channels.length) s)
      fun i t => i = s.connection.channels.length ∧ Follows [.openChannel i] 1 s t := by
  have hasked := Follows.asked s.connection.channels.length (s.next 0) s
  unfold Ensures
  rw [exec_openChannel session (.refl s)]
  cases s.connection.isClosed with
  | true => exact .refl s
  | false =>
    cases (s.next 0).refused with
    | none => exact ⟨rfl, hasked⟩
    | some f => exact ⟨_, 1, hasked, fun _ => List.mem_singleton.mp⟩

theorem run_ensures (session : Session) (command : String) (s : Surroundings τ) :
    Ensures (session.run command) s
      (Strays (· ∈ runNotes s.connection.channels.length command) s)
      fun _ t => Follows (runNotes s.connection.channels.length command) 1 s t := by
  have hbody (i : Nat) : Notes [.channel i (.exec command), .channel i .makeFile,
      .channel i .exitStatus, .channel i .close] (tryFinally (tryCatch (do
        Remote.call i (.exec command) (← Remote.channel i).faults.exec
        let bytes ← Remote.output i
        return (bytes, ← Remote.exitStatus i))
      fun f => throw (if f.isSsh || f.isSystem then .trouble (.notRun command f.text) else f))
        (Remote.close i) : Act τ (Bytes × Int)) := by
    show Notes ([_, _, _] ++ [.channel i .close]) _
    refine .tryFinally (.tryCatch_throw ?_ _) (.of_makes (Remote.close_makes i))
    have hcall (ch : Channel) : Notes [.channel i (.exec command)]
        (Remote.call i (.exec command) ch.faults.exec : Act τ Unit) :=
      .of_makes (Remote.call_makes i _ _)
    have hreport : Notes [.channel i .exitStatus] (Remote.exitStatus i : Act τ Int) :=
      .of_makes (Remote.exitStatus_makes i)
    refine .get fun s => (hcall (s.connection.channels[i]?.getD {})).bind fun _ => ?_
    exact (Notes.of_makes (Remote.output_makes i)).bind fun _ => hreport.bind fun _ => .pure _
  refine ((session.openChannel_ensures s).mono (fun t ht => ht.mono ?_) fun _ _ => id).bind ?_
  · rintro _ rfl
    exact List.mem_cons_self
  rintro _ t ⟨rfl, ht⟩
  have hopened : Strays (· ∈ runNotes s.connection.channels.length command) s t :=
    ⟨_, 1, ht, fun e he => List.mem_singleton.mp he ▸ List.mem_cons_self⟩
  refine ((hbody s.connection.channels.length t).mono
    (fun u hu => hopened.trans (hu.mono fun _ => List.mem_cons_of_mem _))
    fun _ u hu => ht.trans hu).bind ?_
  rintro ⟨bytes, status⟩ u hu
  dsimp only
  split
  · exact ⟨_, 1, hu, fun _ => id⟩
  · exact hu

end Session

end Tether
