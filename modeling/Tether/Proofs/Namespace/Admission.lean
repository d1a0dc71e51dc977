import Tether.Proofs.Namespace.Reading
import Tether.Proofs.Footprint.Gate

/-! # Admission

Every connection that the gate accepts is closed, and the file-share server is
called once for each that brings the nonce in time and for no other. The run is
abandoned if and only if none of those that came in the first phase did.
-/

namespace Tether

variable {τ : Type}

open Act

namespace Surroundings

variable (s : Surroundings τ)

def servings : List (String × String × Path) :=
  s.events.filterMap fun
    | .serve label peer root => some (label, peer, root)
    | _ => none

def closings : List String :=
  s.events.filterMap fun
    | .closePeer peer => some peer
    | _ => none

def listenerClosings : Nat := s.events.countP fun
  | .closeListener => true
  | _ => false

end Surroundings

/-- What a part of a run adds: the connections that came, the calls to the server and the
closings of connections. The listener is left alone. -/
structure Adds (s t : Surroundings τ) (came : List (Peer τ × τ))
    (served : List (String × String × Path)) (closed : List String) : Prop where
  accepted : t.accepted = s.accepted ++ came
  servings : t.servings = s.servings ++ served
  closings : t.closings = s.closings ++ closed
  listener : t.listenerClosings = s.listenerClosings

namespace Adds

variable {s t u : Surroundings τ} {came came' : List (Peer τ × τ)}
  {served served' : List (String × String × Path)} {closed closed' : List String}

theorem trans (h : Adds s t came served closed) (h' : Adds t u came' served' closed') :
    Adds s u (came ++ came') (served ++ served') (closed ++ closed') where
  accepted := by rw [h'.accepted, h.accepted, List.append_assoc]
  servings := by rw [h'.servings, h.servings, List.append_assoc]
  closings := by rw [h'.closings, h.closings, List.append_assoc]
  listener := h'.listener.trans h.listener

theorem before (h : Adds s t [] [] []) (h' : Adds t u came served closed) :
    Adds s u came served closed := by
  simpa only [List.nil_append] using h.trans h'

theorem after (h : Adds s t came served closed) (h' : Adds t u [] [] []) :
    Adds s u came served closed := by
  simpa only [List.append_nil] using h.trans h'

theorem bind {α β : Type} {a : Act τ α} {k : α → Act τ β}
    (h : Adds s (exec a s).2 came served closed)
    (hk : ∀ x t, Adds t (exec (k x) t).2 [] [] []) :
    Adds s (exec (a >>= k) s).2 came served closed := by
  rw [exec_bind]
  rcases e : exec a s with ⟨f | x, t⟩ <;> rw [e] at h
  · exact h
  · exact h.after (hk x t)

theorem refl (s : Surroundings τ) : Adds s s [] [] [] := by
  constructor <;> simp

theorem reading (h : Reaches Change.IsReading s t) : Adds s t [] [] [] where
  accepted := by
    rw [List.append_nil]
    refine h.const Surroundings.accepted fun c hc s => ?_
    cases hc <;> simp [Change.apply]
  servings := by
    rw [List.append_nil]
    refine h.const Surroundings.servings fun c hc s => ?_
    cases hc <;> simp [Change.apply, Surroundings.servings]
  closings := by
    rw [List.append_nil]
    refine h.const Surroundings.closings fun c hc s => ?_
    cases hc <;> simp [Change.apply, Surroundings.closings]
  listener := by
    refine h.const Surroundings.listenerClosings fun c hc s => ?_
    cases hc <;> simp [Change.apply, Surroundings.listenerClosings]

theorem nothing {c : Change τ} (hc : Change.IsReading c) (s : Surroundings τ) :
    Adds s (c.apply s) [] [] [] :=
  reading (.change hc s)

theorem logged (s : Surroundings τ) (level : Level) (text : String) :
    Adds s (s.logged gateLogName level text) [] [] [] :=
  nothing (.log level text) s

theorem acceptCall (s : Surroundings τ) (limit : Option τ) :
    Adds s ((Change.event (.accept limit)).apply s) [] [] [] := by
  constructor <;> simp [Change.apply, Surroundings.servings, Surroundings.closings,
    Surroundings.listenerClosings]

theorem accept (s : Surroundings τ) (p : Peer τ) :
    Adds s ((Change.accept p).apply s) [(p, s.clock)] [] [] := by
  constructor <;> simp [Change.apply, Surroundings.servings, Surroundings.closings,
    Surroundings.listenerClosings]

theorem turn (s : Surroundings τ) (n : Nat) :
    Adds s ((Change.served n).apply s) [] [] [] := by
  constructor <;> simp [Change.apply, Surroundings.servings, Surroundings.closings,
    Surroundings.listenerClosings]

theorem visit (s : Surroundings τ) (peer : String) (bs : Bytes) :
    Adds s ((Change.event (.served peer bs)).apply s) [] [] [] := by
  constructor <;> simp [Change.apply, Surroundings.servings, Surroundings.closings,
    Surroundings.listenerClosings]

theorem closePeer (h : Adds s t came served []) (name : String) :
    Adds s ((Change.event (.closePeer name)).apply t) came served [name] := by
  have hclose : Adds t ((Change.event (.closePeer name)).apply t) [] [] [name] := by
    constructor <;> simp [Change.apply, Surroundings.servings, Surroundings.closings,
      Surroundings.listenerClosings]
  simpa only [List.append_nil, List.nil_append] using h.trans hclose

theorem serve (s : Surroundings τ) (label peer : String) (root : Path) :
    Adds s ((Change.event (.serve label peer root)).apply s) [] [(label, peer, root)] [] := by
  constructor <;> simp [Change.apply, Surroundings.servings, Surroundings.closings,
    Surroundings.listenerClosings]

end Adds

/-- Delivers a connection whose reads fail only as the system does, or nothing. -/
structure Arrival.IsRegular (a : Arrival τ) : Prop where
  reads : ∀ p, a.delivery = .peer p → p.FailsBySystem
  delivers : ∀ f, a.delivery ≠ .failure f

theorem exec_accept [Time τ] (limit : Option τ) (as : List (Arrival τ)) (s : Surroundings τ)
    (has : ∀ a ∈ as, a.IsRegular) :
    ∃ o t, exec (accept limit as) s = (.ok o, t) ∧
      match o with
      | none => Adds s t [] [] []
      | some p => Adds s t [(p, t.clock)] [] [] ∧ p.FailsBySystem := by
  have hcall := Adds.acceptCall s limit
  have hwait (d : τ) (t : Surroundings τ) := Adds.nothing (.clock (· + d)) t
  cases as with
  | nil =>
    cases limit with
    | none => exact ⟨none, _, rfl, hcall⟩
    | some t => exact ⟨none, _, rfl, hcall.trans (hwait t _)⟩
  | cons a rest =>
    obtain ⟨hreads, hdelivers⟩ := has a List.mem_cons_self
    rw [Tether.accept, Arrival.take]
    cases a.isMissed limit with
    | true => exact ⟨none, _, rfl, hcall.trans (hwait _ _)⟩
    | false =>
      have hnext := hcall.trans (hwait a.delay _)
      cases hd : a.delivery with
      | failure f => exact absurd hd (hdelivers f)
      | nothing => exact ⟨none, _, rfl, hnext⟩
      | peer p => exact ⟨some p, _, rfl, hnext.trans (.accept _ p), hreads p hd⟩

namespace Gate

section

variable [Time τ]

omit [Time τ] in
theorem exec_attend (p : Peer τ) {a : Act τ Unit} {s : Surroundings τ}
    {served : List (String × String × Path)} (h : Adds s (exec a s).2 [] served []) :
    ∃ t, exec (attend p a) s = (.ok (), t) ∧ Adds s t [] served [p.name] := by
  rw [attend, exec_tryFinally, exec_tryCatch, Peer.close]
  rcases e : exec a s with ⟨f | ⟨⟩, t⟩ <;> rw [e] at h
  · simp only [exec_log]
    have hlog := Adds.logged t .error "file-share server failed"
    exact ⟨_, rfl, (h.after hlog).closePeer p.name⟩
  · exact ⟨_, rfl, h.closePeer p.name⟩

theorem authenticate_adds (g : Gate τ) (p : Peer τ) (timeout : τ) (s : Surroundings τ) :
    Adds s (exec (g.authenticate p timeout) s).2 [] [] [] :=
  .reading ((g.authenticate_within p timeout).reaches .refl s)

theorem hand_adds (g : Gate τ) {label : String} {react : Nat → Peer τ → Reaction}
    (hshare : g.share = .installed label react) (p : Peer τ) (s : Surroundings τ) :
    Adds s (exec (g.hand p) s).2 [] [(label, p.name, g.root)] [] := by
  have hfail (f : Option Failure) (t : Surroundings τ) :
      Adds t (exec (failIf f) t).2 [] [] [] := by
    cases f <;> exact .refl t
  rw [hand, hshare]
  refine Adds.bind (.serve s label p.name g.root) fun _ t => ?_
  refine Adds.bind (.refl t) fun w t => Adds.bind (.turn t (w.served + 1)) fun _ t => ?_
  dsimp only
  split
  · refine Adds.bind (.reading ((p.receive_within _).reaches .refl t)) fun r t => ?_
    exact Adds.bind (.visit t p.name r.1) fun _ => hfail _
  · exact hfail _ t

/-- A check is one call to the server if the connection brings the nonce, and none if not. -/
theorem check_adds (g : Gate τ) {label : String} {react : Nat → Peer τ → Reaction}
    (hshare : g.share = .installed label react) {p : Peer τ} {s : Surroundings τ}
    {o : Option (Peer τ)} (ho : (exec (g.authenticate p g.deadline) s).1 = .ok o)
    (hname : ∀ q ∈ o, q.name = p.name) :
    Adds s (exec (g.check p) s).2 [] (if o.isSome then [(label, p.name, g.root)] else []) [] := by
  have hread := g.authenticate_adds p g.deadline s
  rw [check, exec_bind]
  rcases e : exec (g.authenticate p g.deadline) s with ⟨r, t⟩
  rw [e] at ho hread
  obtain rfl : r = .ok o := ho
  cases o with
  | none => simpa using hread.after (.logged t .warning rejectedText)
  | some q =>
    simp only [exec_bind, exec_log, Option.isSome_some, if_true]
    have hlog := hread.after (.logged t .debug "namespace connection admitted")
    rw [← hname q rfl]
    exact hlog.before (g.hand_adds hshare q _)

end

variable [ExactTime τ]

def calls (g : Gate τ) (label : String) (vs : List (Peer τ × τ)) :
    List (String × String × Path) :=
  vs.map fun v => (label, v.1.name, g.root)

def names (vs : List (Peer τ × τ)) : List String := vs.map fun v => v.1.name

theorem attendAll_spec (g : Gate τ) {label : String} {react : Nat → Peer τ → Reaction}
    (hshare : g.share = .installed label react) (hn : g.nonce.IsAscii)
    (as : List (Arrival τ)) (has : ∀ a ∈ as, a.IsRegular) (s : Surroundings τ) :
    ∃ t serving, exec (g.attendAll as) s = (.ok (), t) ∧
      Adds s t serving
        (g.calls label (serving.filter fun v => g.Admits (v.2 + g.deadline) v.2 v.1))
        (names serving) := by
  induction as generalizing s with
  | nil =>
    obtain ⟨o, t, he, h⟩ := exec_accept none [] s has
    obtain rfl : o = none := by
      rw [accept] at he
      exact (Except.ok.inj (Prod.ext_iff.mp he).1).symm
    exact ⟨t, [], by rw [attendAll, exec_bind, he]; rfl, h⟩
  | cons a rest ih =>
    obtain ⟨o, t, he, h⟩ := exec_accept none (a :: rest) s has
    rw [attendAll, exec_bind, he]
    cases o with
    | none => exact ⟨t, [], rfl, h⟩
    | some p =>
      obtain ⟨hcame, hp⟩ := h
      obtain ⟨o, ho, hadmits, hname⟩ := g.authenticate_outcome p g.deadline t hn hp
      obtain ⟨u, hu, hattend⟩ := exec_attend p (g.check_adds hshare ho hname)
      obtain ⟨w, serving, hw, hrest⟩ := ih (fun b hb => has b (List.mem_cons_of_mem _ hb)) u
      refine ⟨w, (p, t.clock) :: serving, by simp only [exec_bind, hu, hw], ?_⟩
      have hall := (hcame.trans hattend).trans hrest
      by_cases ha : g.Admits (t.clock + g.deadline) t.clock p
      · simpa [hadmits.mpr ha, ha, calls, names] using hall
      · have hnone : o.isSome = false := by simpa [← hadmits] using ha
        simpa [hnone, ha, calls, names] using hall

/-- A gate that waits ten seconds for a nonce of two characters. -/
def patient : Gate ℚ where
  share := .installed "files" fun _ _ => {}
  root := { root := "/", parts := ["export"] }
  nonce := ⟨"ab"⟩
  deadline := 10

/-- One connection that stops halfway, one that brings the nonce in two parts, and one that
is reset. -/
def arriving : Listener ℚ where
  address := "127.0.0.1:4000"
  arrivals := [
    ⟨1, .peer { name := "first", steps := [⟨0, .send [97], false⟩] }, false⟩,
    ⟨2, .peer { name := "second", steps := [⟨0, .send [97], false⟩, ⟨1, .send [98], false⟩] },
      false⟩,
    ⟨3, .peer { name := "third", steps := [⟨0, .fail (.outside .system "reset"), false⟩] },
      false⟩]
  close := emit .closeListener

end Gate

end Tether
