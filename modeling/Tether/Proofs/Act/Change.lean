import Tether.Proofs.Act.Relate
import Mathlib.Logic.Relation

/-! # The changes that an action makes

Everything that an action does to its surroundings is a sequence of elementary
changes. An action is within a class of changes, seen from a part of the
surroundings, if no relation that keeps that part and survives those changes can
tell its runs apart. Frames for one run and for two runs both follow from that.
-/

namespace Tether

variable {τ α β : Type}

/-- An elementary change of the surroundings. -/
inductive Change (τ : Type)
  | event (e : Event τ)
  | clock (f : τ → τ)
  | log (logger : String) (level : Level) (text : String)
  | thread (name : String) (f : Failure)
  | accept (p : Peer τ)
  | served (n : Nat)
  | openChannel (c : Channel)
  | channel (i : Nat) (f : Channel → Channel)
  | forwardings (f : List Forwarding → List Forwarding)
  | relayed (stdin : Reader) (stdout stderr : Sink) (failures : List (String × Failure))
  | handler (h : ResizeHandler)
  | holder (st : TerminalState)
  | device (m : Mode)

namespace Change

def apply (c : Change τ) (s : Surroundings τ) : Surroundings τ :=
  match c with
  | event e => { s with events := s.events ++ [e] }
  | clock f => { s with clock := f s.clock }
  | log logger level text => s.logged logger level text
  | thread name f => { s with threads := s.threads ++ [(name, f)] }
  | accept p => { s with accepted := s.accepted ++ [(p, s.clock)] }
  | served n => { s with served := n }
  | openChannel c => { s with
      connection := { s.connection with channels := s.connection.channels ++ [c] } }
  | channel i f => { s with
      connection := { s.connection with channels := s.connection.channels.modify i f } }
  | forwardings f => { s with
      connection := { s.connection with forwardings := f s.connection.forwardings } }
  | relayed stdin stdout stderr failures =>
    { s with stdin, stdout, stderr, threads := s.threads ++ failures }
  | handler h => { s with signals := { s.signals with handler := h } }
  | holder st => { s with terminal := st }
  | device m => { s with tty := { s.tty with mode := m } }

end Change

/-- One change of a class after the other. -/
def Reaches (C : Change τ → Prop) : Surroundings τ → Surroundings τ → Prop :=
  Relation.ReflTransGen fun s t => ∃ c, C c ∧ t = c.apply s

namespace Reaches

variable {C D : Change τ → Prop} {s t u : Surroundings τ}

theorem refl (s : Surroundings τ) : Reaches C s s := Relation.ReflTransGen.refl

theorem trans (h : Reaches C s t) (h' : Reaches C t u) : Reaches C s u :=
  Relation.ReflTransGen.trans h h'

theorem change {c : Change τ} (hc : C c) (s : Surroundings τ) : Reaches C s (c.apply s) :=
  Relation.ReflTransGen.single ⟨c, hc, rfl⟩

theorem mono (hC : ∀ c, C c → D c) (h : Reaches C s t) : Reaches D s t :=
  Relation.ReflTransGen.mono (fun _ _ ⟨c, hc, e⟩ => ⟨c, hC c hc, e⟩) _ _ h

theorem keeps (I : Surroundings τ → Prop) (hI : ∀ c, C c → ∀ s, I s → I (c.apply s))
    (h : Reaches C s t) (hs : I s) : I t := by
  induction h with
  | refl => exact hs
  | tail _ hstep ih =>
    obtain ⟨c, hc, rfl⟩ := hstep
    exact hI c hc _ ih

theorem events {P : Event τ → Prop} (hC : ∀ e, C (.event e) → P e) (h : Reaches C s t) :
    ∃ es, t.events = s.events ++ es ∧ ∀ e ∈ es, P e := by
  refine h.keeps (fun t => ∃ es, t.events = s.events ++ es ∧ ∀ e ∈ es, P e)
    (fun c hc u hu => ?_) ⟨[], by simp, by simp⟩
  obtain ⟨es, hes, hP⟩ := hu
  cases c with
  | event e =>
    refine ⟨es ++ [e], by simp [Change.apply, hes], fun e' he' => ?_⟩
    rcases List.mem_append.mp he' with he' | he'
    · exact hP e' he'
    · obtain rfl : e' = e := by simpa using he'
      exact hC e' hc
  | log => exact ⟨es, by simp [Change.apply, hes], hP⟩
  | _ => exact ⟨es, hes, hP⟩

theorem const {β : Type*} (f : Surroundings τ → β) (hf : ∀ c, C c → ∀ s, f (c.apply s) = f s)
    (h : Reaches C s t) : f t = f s :=
  h.keeps (f · = f s) (fun c hc s hs => (hf c hc s).trans hs) rfl

theorem bind {a : Act τ α} {k : α → Act τ β} (h : Reaches C s (Act.exec a s).2)
    (hk : ∀ x u, Reaches C u (Act.exec (k x) u).2) : Reaches C s (Act.exec (a >>= k) s).2 := by
  rw [Act.exec_bind]
  rcases e : Act.exec a s with ⟨f | x, u⟩ <;> rw [e] at h
  · exact h
  · exact h.trans (hk x u)

theorem tryCatch {a : Act τ α} {k : Failure → Act τ α} (h : Reaches C s (Act.exec a s).2)
    (hk : ∀ f u, Reaches C u (Act.exec (k f) u).2) :
    Reaches C s (Act.exec (MonadExcept.tryCatch a k) s).2 := by
  rw [Act.exec_tryCatch]
  rcases e : Act.exec a s with ⟨f | x, u⟩ <;> rw [e] at h
  · exact h.trans (hk f u)
  · exact h

end Reaches

/-- A relation that keeps a view in step and survives changes on both sides. -/
structure Frame (V : Surroundings τ → Surroundings τ → Prop) (C : Change τ → Prop)
    (R : Surroundings τ → Surroundings τ → Prop) : Prop where
  sees : ∀ {s t}, R s t → V s t
  keeps : ∀ {c}, C c → ∀ {s t}, R s t → R (c.apply s) (c.apply t)

theorem Frame.mono {V W R : Surroundings τ → Surroundings τ → Prop} {C D : Change τ → Prop}
    (hR : Frame W D R) (hV : ∀ s t, W s t → V s t) (hC : ∀ c, C c → D c) : Frame V C R :=
  ⟨fun h => hV _ _ (hR.sees h), fun hc => hR.keeps (hC _ hc)⟩

namespace Act

/-- Looks only at what the view keeps in step, and makes only changes of the class. -/
def Within (V : Surroundings τ → Surroundings τ → Prop) (C : Change τ → Prop)
    (a : Act τ α) : Prop :=
  ∀ R, Frame V C R → Agree R a a

theorem Agree.thread {V R : Surroundings τ → Surroundings τ → Prop} {C : Change τ → Prop}
    (hR : Frame V C R) {name : String} {a b : Act τ Unit} (h : Agree R a b)
    (hC : ∀ f, C (.thread name f)) : Agree R (thread name a) (thread name b) :=
  Leads.tryCatch h fun f _ _ hst => ⟨rfl, hR.keeps (hC f) hst⟩

namespace Within

variable {V W : Surroundings τ → Surroundings τ → Prop} {C D : Change τ → Prop}

theorem mono {a : Act τ α} (h : Within V C a) (hV : ∀ s t, W s t → V s t)
    (hC : ∀ c, C c → D c) : Within W D a :=
  fun R hR => h R (hR.mono hV hC)

theorem pure (x : α) : Within V C (Pure.pure x) := fun _ _ => Relate.pure rfl

theorem throw (f : Failure) : Within V C (MonadExcept.throw f : Act τ α) :=
  fun _ _ => Relate.throw f

theorem bind {a : Act τ α} {k : α → Act τ β} (h : Within V C a) (hk : ∀ x, Within V C (k x)) :
    Within V C (a >>= k) :=
  fun R hR => Agree.bind (h R hR) fun x => hk x R hR

theorem bind_of {a : Act τ α} {k : α → Act τ β} (h : Within V C a) (P : α → Prop)
    (hP : ∀ s x t, exec a s = (.ok x, t) → P x) (hk : ∀ x, P x → Within V C (k x)) :
    Within V C (a >>= k) := by
  intro R hR s t hst
  have h' := h R hR s t hst
  simp only [exec_bind]
  rcases ha : exec a s with ⟨f | x, s'⟩ <;> rcases hb : exec a t with ⟨g | y, t'⟩ <;>
    rw [ha, hb] at h'
  · exact h'
  · exact h'.1.elim
  · exact h'.1.elim
  · obtain rfl : x = y := h'.1
    exact hk x (hP s x s' ha) R hR s' t' h'.2

theorem tryCatch {a : Act τ α} {k : Failure → Act τ α} (h : Within V C a)
    (hk : ∀ f, Within V C (k f)) : Within V C (MonadExcept.tryCatch a k) :=
  fun R hR => Leads.tryCatch (h R hR) fun f => hk f R hR

theorem tryFinally {a : Act τ α} {b : Act τ β} (h : Within V C a) (hb : Within V C b) :
    Within V C (tryFinally a b) :=
  fun R hR => Leads.tryFinally (h R hR) (hb R hR)

theorem get {k : Surroundings τ → Act τ α} (hk : ∀ s, Within V C (k s))
    (h : ∀ s t, V s t → k s = k t) : Within V C (MonadState.get >>= k) :=
  fun R hR => Leads.get fun s t hst => h s t (hR.sees hst) ▸ hk s R hR

theorem change (c : Change τ) (hc : C c) : Within V C (modify c.apply : Act τ Unit) :=
  fun _ hR _ _ h => ⟨rfl, hR.keeps hc h⟩

/-- A change that depends on nothing but what the view keeps in step. -/
theorem modify_of {F : Surroundings τ → Surroundings τ} (c : Surroundings τ → Change τ)
    (hF : ∀ s, F s = (c s).apply s) (hc : ∀ s, C (c s)) (hV : ∀ s t, V s t → c s = c t) :
    Within V C (modify F : Act τ Unit) := by
  intro R hR s t hst
  refine ⟨rfl, ?_⟩
  show R (F s) (F t)
  rw [hF s, hF t, ← hV s t (hR.sees hst)]
  exact hR.keeps (hc s) hst

theorem emit {e : Event τ} (h : C (.event e)) : Within V C (emit e) := change (.event e) h

theorem wait [Time τ] (span : τ) (h : ∀ f, C (.clock f)) : Within V C (wait span) :=
  change (.clock (· + span)) (h _)

theorem log {logger : String} {level : Level} {text : String} (h : C (.log logger level text)) :
    Within V C (log logger level text) :=
  fun R hR s t hst => by
    rw [exec_log, exec_log]
    exact ⟨rfl, hR.keeps h hst⟩

theorem failIf (f : Option Failure) : Within V C (failIf f : Act τ Unit) := by
  cases f
  · exact .pure ()
  · exact .throw _

theorem lift (r : Except Failure α) : Within V C (lift r : Act τ α) := by
  cases r
  · exact .throw _
  · exact .pure _

theorem thread {name : String} {a : Act τ Unit} (h : Within V C a)
    (hC : ∀ f, C (.thread name f)) : Within V C (thread name a) :=
  fun R hR => Agree.thread hR (h R hR) hC

theorem reaches {a : Act τ α} (h : Within V C a) (hV : ∀ s, V s s) (s : Surroundings τ) :
    Reaches C s (exec a s).2 := by
  have hR : Frame V C fun u v => u = v ∧ Reaches C s u :=
    ⟨fun h => h.1 ▸ hV _, fun hc _ _ h => ⟨h.1 ▸ rfl, h.2.trans (.change hc _)⟩⟩
  exact (h _ hR s s ⟨rfl, .refl s⟩).2.2

end Within

end Act

end Tether
