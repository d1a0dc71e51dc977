import Tether.Proofs.Footprint.Connect
import Tether.Proofs.Footprint.Run
import Tether.Proofs.Footprint.Terminal

/-! # Channels that are opened

In a session every channel that is opened is closed once, whatever happens in
between, and the handler of window changes is the one that was there before.
-/

namespace Tether

open Act Change

variable {τ α β : Type}

def countCloses (i : Nat) (es : List (Event τ)) : Nat := es.countP fun
  | .channel j .close => j == i
  | _ => false

namespace Surroundings

variable (s : Surroundings τ)

def refusals : List (Option Failure) := s.connection.channels.map (·.refused)

/-- How often the channel of a number was granted: once or not at all. -/
def granted (i : Nat) : Nat := if s.refusals[i]? = some none then 1 else 0

def closes (i : Nat) : Nat := countCloses i s.events

end Surroundings

/-- Between two surroundings the channels that are granted are closed, but for one that may
be left open. -/
structure Leaves (opened : Option Nat) (s t : Surroundings τ) : Prop where
  signals : t.signals = s.signals
  refusals : s.refusals <+: t.refusals
  balance : ∀ i, t.closes i + s.granted i + (if opened = some i then 1 else 0) =
    s.closes i + t.granted i

/-- Neither opens a channel nor closes one, nor sets the handler. -/
def Change.IsSteady : Change τ → Prop
  | .event (.channel _ .close) => False
  | .openChannel _ | .handler _ => False
  | .channel _ f => ∀ c, (f c).nature = c.nature
  | _ => True

theorem Change.IsQuiet.isSteady {c : Change τ} (h : c.IsQuiet) : c.IsSteady := by
  cases c with
  | event e =>
    cases e with
    | channel i call =>
      cases call with
      | close => exact h.elim
      | _ => exact trivial
    | _ => exact trivial
  | openChannel | handler => exact h.elim
  | channel => exact h
  | _ => exact trivial

theorem Change.OfConnect.isSteady {c : Change τ} (h : c.OfConnect) : c.IsSteady := by
  cases c with
  | event e =>
    cases e with
    | closeClient => exact trivial
    | _ => exact IsQuiet.isSteady h
  | _ => exact IsQuiet.isSteady h

theorem Change.OfEntry.isSteady {c : Change τ} (h : c.OfEntry) : c.IsSteady := by
  cases h <;> exact trivial

theorem refusals_channel (i : Nat) {f : Channel → Channel} (hf : ∀ c, (f c).nature = c.nature)
    (s : Surroundings τ) : ((Change.channel i f).apply s).refusals = s.refusals := by
  have hrefused (c : Channel) : (f c).refused = c.refused :=
    show (f c).nature.refused = c.nature.refused by rw [hf c]
  refine List.ext_getElem? fun j => ?_
  simp only [Change.apply, Surroundings.refusals, List.getElem?_map, List.getElem?_modify]
  split <;> cases s.connection.channels[j]? <;> simp [hrefused]

namespace Leaves

variable {o : Option Nat} {i : Nat} {s t u : Surroundings τ}

theorem trans (h : Leaves o s t) (h' : Leaves none t u) : Leaves o s u where
  signals := h'.signals.trans h.signals
  refusals := h.refusals.trans h'.refusals
  balance i := by
    have := h.balance i
    have := h'.balance i
    simp only [reduceCtorEq, if_false] at *
    omega

theorem before (h : Leaves none s t) (h' : Leaves o t u) : Leaves o s u where
  signals := h'.signals.trans h.signals
  refusals := h.refusals.trans h'.refusals
  balance i := by
    have := h.balance i
    have := h'.balance i
    simp only [reduceCtorEq, if_false] at *
    omega

theorem steady (h : Reaches IsSteady s t) : Leaves none s t := by
  have hsignals : t.signals = s.signals := by
    refine h.const Surroundings.signals fun c hc s => ?_
    cases c <;> first | exact hc.elim | simp [Change.apply]
  have hrefusals : t.refusals = s.refusals := by
    refine h.const Surroundings.refusals fun c hc s => ?_
    cases c with
    | openChannel => exact hc.elim
    | channel i f => exact refusals_channel i hc s
    | _ => simp [Change.apply, Surroundings.refusals]
  have hcloses (i : Nat) : t.closes i = s.closes i := by
    refine h.const (Surroundings.closes · i) fun c hc s => ?_
    cases c with
    | event e =>
      cases e with
      | channel j call =>
        cases call with
        | close => exact hc.elim
        | _ => simp [Change.apply, Surroundings.closes, countCloses]
      | _ => simp [Change.apply, Surroundings.closes, countCloses]
    | _ => simp [Change.apply, Surroundings.closes, countCloses]
  exact ⟨hsignals, hrefusals ▸ List.prefix_rfl, fun i => by
    simp [hcloses, Surroundings.granted, hrefusals]⟩

/-- Every channel that was not there before is closed as often as it was granted, no other. -/
theorem countCloses_eq {es : List (Event τ)} (h : Leaves none s t)
    (hevents : t.events = s.events ++ es) (i : Nat) :
    countCloses i es = if s.connection.channels.length ≤ i then t.granted i else 0 := by
  have hbalance := h.balance i
  have hcount : t.closes i = s.closes i + countCloses i es := by
    rw [Surroundings.closes, hevents, countCloses, List.countP_append]
    rfl
  simp only [reduceCtorEq, if_false] at hbalance
  split
  · rename_i hi
    have hnone : s.granted i = 0 := by
      simp [Surroundings.granted, Surroundings.refusals, hi]
    omega
  · rename_i hi
    have hsame : t.granted i = s.granted i := by
      obtain ⟨more, hmore⟩ := h.refusals
      have hlt : i < s.refusals.length := by
        simpa [Surroundings.refusals] using hi
      rw [Surroundings.granted, ← hmore, List.getElem?_append_left hlt, Surroundings.granted]
    omega

theorem opening (s : Surroundings τ) (c : Channel) :
    Leaves (if c.refused = none then some s.connection.channels.length else none) s
      ((Change.openChannel c).apply
        ((Change.event (.openChannel s.connection.channels.length)).apply s)) := by
  refine ⟨rfl, ⟨[c.refused], by simp [Change.apply, Surroundings.refusals]⟩, fun i => ?_⟩
  have hcloses : ((Change.openChannel c).apply ((Change.event
      (.openChannel s.connection.channels.length)).apply s)).closes i = s.closes i := by
    simp [Change.apply, Surroundings.closes, countCloses]
  rw [hcloses]
  simp only [Surroundings.granted, Surroundings.refusals, Change.apply, List.map_append,
    List.map_cons, List.map_nil, List.getElem?_append, List.length_map]
  rcases Nat.lt_trichotomy i s.connection.channels.length with hi | rfl | hi
  · have hne : s.connection.channels.length ≠ i := by omega
    cases c.refused <;> simp [hi, hne]
  · cases c.refused <;> simp
  · obtain ⟨k, rfl⟩ := Nat.exists_eq_add_of_lt hi
    cases c.refused <;> simp [Nat.add_assoc]

theorem closed (h : Leaves (some i) s t) : Leaves none s (exec (Remote.close i) t).2 := by
  have hend : (exec (Remote.close i) t).2 =
      (Change.event (.channel i .close)).apply t := by
    simp only [Remote.close, Remote.channel, Remote.call, exec_bind, exec_get, exec_pure, exec_emit]
    cases (t.connection.channels[i]?.getD {}).faults.close <;> rfl
  rw [hend]
  refine ⟨h.signals, h.refusals, fun j => ?_⟩
  have hj := h.balance j
  by_cases hij : i = j <;>
    simp [Change.apply, Surroundings.closes, countCloses, Surroundings.granted,
      Surroundings.refusals, hij]
      at hj ⊢ <;> omega

end Leaves

namespace Act

/-- Wherever it starts, an action closes what it opens. -/
def Settles (a : Act τ α) : Prop := ∀ s, Leaves none s (exec a s).2

theorem Settles.bind {a : Act τ α} {k : α → Act τ β} (h : Settles a)
    (hk : ∀ x, Settles (k x)) : Settles (a >>= k) := by
  intro s
  have ha := h s
  rw [exec_bind]
  rcases e : exec a s with ⟨f | x, t⟩ <;> rw [e] at ha
  · exact ha
  · exact ha.trans (hk x t)

theorem Within.settles {V : Surroundings τ → Surroundings τ → Prop} {a : Act τ α}
    (h : Within V IsQuiet a) (hV : ∀ s, V s s) : Settles a :=
  fun s => .steady ((h.reaches hV s).mono fun _ => IsQuiet.isSteady)

theorem Settles.throw (f : Failure) : Settles (MonadExcept.throw f : Act τ α) :=
  (Within.throw (V := SessionView) f).settles .refl

theorem Settles.pure (x : α) : Settles (Pure.pure x : Act τ α) :=
  (Within.pure (V := SessionView) x).settles .refl

theorem Settles.tryCatch {a : Act τ α} {k : Failure → Act τ α} (h : Settles a)
    (hk : ∀ f, Settles (k f)) : Settles (MonadExcept.tryCatch a k) := by
  intro s
  have ha := h s
  rw [exec_tryCatch]
  rcases e : exec a s with ⟨f | x, t⟩ <;> rw [e] at ha
  · exact ha.trans (hk f t)
  · exact ha

/-- Leaves a channel open if it returns its number, and none if it fails. -/
def Opens (a : Act τ Nat) : Prop :=
  ∀ s, match exec a s with
    | (.ok i, t) => Leaves (some i) s t
    | (.error _, t) => Leaves none s t

def Closes (i : Nat) (a : Act τ α) : Prop :=
  ∀ s t, Leaves (some i) s t → Leaves none s (exec a t).2

theorem Opens.bind {a : Act τ Nat} {k : Nat → Act τ α} (h : Opens a) (hk : ∀ i, Closes i (k i)) :
    Settles (a >>= k) := by
  intro s
  have ha := h s
  rw [exec_bind]
  rcases e : exec a s with ⟨f | i, t⟩ <;> rw [e] at ha
  · exact ha
  · exact hk i s t ha

theorem Closes.finally {a : Act τ α} (h : Settles a) (i : Nat) :
    Closes i (tryFinally a (Remote.close i)) := by
  intro s t hst
  rw [exec_tryFinally_snd]
  exact (hst.trans (h t)).closed

theorem Closes.bind {i : Nat} {a : Act τ α} {k : α → Act τ β} (h : Closes i a)
    (hk : ∀ x, Settles (k x)) : Closes i (a >>= k) := by
  intro s t hst
  have ha := h s t hst
  rw [exec_bind]
  rcases e : exec a t with ⟨f | x, u⟩ <;> rw [e] at ha
  · exact ha
  · exact ha.trans (hk x u)

end Act

theorem Session.openChannel_opens (s : Session) : Opens (s.openChannel : Act τ Nat) := by
  intro w
  have hopen := (s.ensureOpen_within.toSession.settles .refl) w
  rw [openChannel, exec_tryCatch, exec_bind]
  rcases e : exec s.ensureOpen w with ⟨f | ⟨⟩, t⟩ <;> rw [e] at hopen
  · exact hopen
  · have hopening := hopen.before (.opening t (t.connection.script t.connection.channels.length))
    simp only [exec_bind, exec_get, exec_emit, exec_modify]
    rcases hr : (t.connection.script t.connection.channels.length).refused with _ | f
    · rw [hr, if_pos rfl] at hopening
      exact hopening
    · rw [hr, if_neg (by simp)] at hopening
      exact hopening

theorem Session.run_settles (s : Session) (command : String) :
    Settles (s.run command : Act τ Bytes) := by
  refine s.openChannel_opens.bind fun i => Closes.bind ?_ fun r => ?_
  · exact .finally ((runBody_within i command).toSession.settles .refl) i
  · dsimp only
    split
    · exact .throw _
    · exact .pure _

namespace Run

theorem findServer_settles (s : Session) : Settles (findServer s.run : Act τ String) := by
  refine Settles.bind (.tryCatch (s.run_settles _) fun f => ?_) fun output => ?_
  · split <;> exact .throw _
  · split
    · exact .pure _
    · exact .throw _

def handled (h : ResizeHandler) (s : Surroundings τ) : Surroundings τ :=
  (Change.handler h).apply ((Change.event (.handler h)).apply s)

theorem exec_setHandler (h : ResizeHandler) (s : Surroundings τ) :
    exec (setHandler h) s = (.ok (), handled h s) := rfl

@[simp] theorem handled_closes (h : ResizeHandler) (s : Surroundings τ) (i : Nat) :
    (handled h s).closes i = s.closes i := by
  simp [handled, Change.apply, Surroundings.closes, countCloses]

@[simp] theorem handled_granted (h : ResizeHandler) (s : Surroundings τ) (i : Nat) :
    (handled h s).granted i = s.granted i := rfl

theorem forwardingResizes_settles (isTty : Bool) {a : Act τ α} (h : Settles a) :
    Settles (forwardingResizes isTty a) := by
  intro s
  rw [forwardingResizes, exec_bind, exec_get]
  dsimp only
  split
  · exact h s
  · -- The handler is set before the action and set back after it.
    obtain ⟨hsignals, hrefusals, hbalance⟩ := h (handled .forwarding s)
    simp only [exec_bind, exec_setHandler, exec_tryFinally_snd]
    refine ⟨?_, hrefusals, fun i => by simpa using hbalance i⟩
    show { (exec a (handled .forwarding s)).2.signals with handler := s.signals.handler } =
      s.signals
    rw [hsignals]
    rfl

theorem work_closes (i : Nat) (command : String) (env : Environment) :
    Closes i (work i command env) := by
  have hbegin : Settles (Launch.begin (.onChannel i) command env : Act Float Unit) :=
    (Launch.begin_within i command env).toSession.settles .refl
  have hrest : Settles (do
      relay i
      forwardingResizes (← get).tty.isTty (Remote.wait i) : Act Float Unit) := by
    refine ((relay_within i).settles .refl).bind fun _ => ?_
    intro s
    exact forwardingResizes_settles _ ((Remote.wait_within i).toSession.settles .refl) s
  intro s t hst
  have hbegun := hst.trans (hbegin t)
  rw [work, exec_bind, exec_tryCatch]
  rcases e : exec (Launch.begin (.onChannel i) command env) t with ⟨f | ⟨⟩, u⟩ <;> rw [e] at hbegun
  · have hclosed := hbegun.closed
    simp only [exec_bind, exec_throw]
    rcases e' : exec (Remote.close i) u with ⟨g | ⟨⟩, v⟩ <;> rw [e'] at hclosed <;> exact hclosed
  · exact Closes.finally hrest i s u hbegun

theorem inSession_settles (m : Means Float) {V : Surroundings Float → Surroundings Float → Prop}
    (hV : ∀ s t, V s t → TunnelView s t) (hrefl : ∀ s, V s s)
    (hnonce : Within V IsQuiet m.makeNonce) (session : Session) (o : ClientOptions)
    (args : String) : Settles (inSession m session o args) := by
  rw [inSession_eq]
  refine Settles.bind ?_ fun o => ?_
  · rw [withServer]
    split
    · exact (findServer_settles session).bind fun _ => .pure _
    · exact .pure _
  refine ((openTunnel_within m hV hnonce session o).settles hrefl).bind fun tunnel => ?_
  have hlog (text : String) : Settles (Act.log loggerName .debug text : Act Float Unit) :=
    (Within.quietLog (V := SessionView)).settles .refl
  exact (hlog _).bind fun _ => session.openChannel_opens.bind fun i => work_closes i _ _

end Run

end Tether
