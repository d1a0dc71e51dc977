import Tether.Proofs.Namespace.Reads
import Tether.Proofs.Namespace.Waiting

/-! # The deadline of the first phase

While the gate waits for the first connection with the nonce, every call that takes time is made
before the deadline and with a limit that ends no later, however many connections come and however
their bytes are cut. If these calls keep to their limits, the phase is over by the deadline.
-/

namespace Tether

variable {τ : Type}

open Act

/-- Waits for a connection or reads from one, or limits the next read. -/
def Event.isWaiting : Event τ → Bool
  | .accept _ | .receive _ _ | .setTimeout _ (some _) => true
  | _ => false

def Surroundings.waiting (s : Surroundings τ) : List (Event τ) := s.events.filter Event.isWaiting

inductive Change.IsBetween : Change τ → Prop
  | log (level : Level) (text : String) : IsBetween (.log gateLogName level text)
  | unlimited (peer : String) : IsBetween (.event (.setTimeout peer none))
  | closePeer (peer : String) : IsBetween (.event (.closePeer peer))

/-- A call that waits: when it begins and when it ends, its limit, and what is seen of it. -/
structure Wait (τ : Type) where
  start : τ
  finish : τ
  limit : τ
  events : List (Event τ)

namespace Wait

def ofRead (name : String) (r : Read τ) : Wait τ := ⟨r.start, r.finish, r.limit, r.events name⟩

def accept (limit : τ) (s t : Surroundings τ) : Wait τ :=
  ⟨s.clock, t.clock, limit, [.accept (some limit)]⟩

/-- Takes no longer than its limit. -/
def IsHonoured [Time τ] (w : Wait τ) : Prop := w.finish ≤ w.start + w.limit

/-- Is asked for before the deadline and limited to the time that is left. -/
structure EndsBy [Time τ] (deadline : τ) (w : Wait τ) : Prop where
  asked : w.start < deadline
  positive : 0 < w.limit
  ends : w.start + w.limit ≤ deadline

end Wait

/-- The calls that wait, one after the other, where connections are taken one at a time. Of each
connection there are some reads before the next is waited for. -/
inductive Waits [Time τ] :
    List (Arrival τ) → Surroundings τ → List (Wait τ) → Surroundings τ → Prop
  | none {as : List (Arrival τ)} {s : Surroundings τ} : Waits as s [] s
  | alone {as : List (Arrival τ)} {s t : Surroundings τ} {limit : τ}
    {r : Except Failure (Option (Peer τ))} (comes : exec (accept (some limit) as) s = (r, t))
    (nobody : ∀ p, r ≠ .ok (some p)) : Waits as s [.accept limit s t] t
  | turn {a : Arrival τ} {as : List (Arrival τ)} {s t u v w : Surroundings τ} {limit : τ}
    {p q : Peer τ} {rs : List (Read τ)} {ws : List (Wait τ)}
    (comes : exec (accept (some limit) (a :: as)) s = (.ok (some p), t))
    (reads : Reads p t rs q u) (between : Reaches Change.IsBetween u v) (next : Waits as v ws w) :
    Waits (a :: as) s (.accept limit s t :: (rs.map (.ofRead p.name) ++ ws)) w

def Peer.IsPunctual (p : Peer τ) : Prop := ∀ step ∈ p.steps, step.late = false

/-- Neither waiting for the arrival nor reading from what it delivers outlasts its limit. -/
structure Arrival.IsPunctual (a : Arrival τ) : Prop where
  comes : a.late = false
  reads : ∀ p, a.delivery = .peer p → p.IsPunctual

section

variable {s t : Surroundings τ}

theorem waiting_of_between (h : Reaches Change.IsBetween s t) : t.waiting = s.waiting := by
  refine h.const Surroundings.waiting fun c hc s => ?_
  cases hc <;> simp [Change.apply, Surroundings.waiting, Event.isWaiting]

theorem clock_of_between (h : Reaches Change.IsBetween s t) : t.clock = s.clock := by
  refine h.const Surroundings.clock fun c hc s => ?_
  cases hc <;> simp [Change.apply]

end

section

variable [ExactTime τ] {p q : Peer τ} {s t : Surroundings τ} {rs : List (Read τ)} {n : Nat}
  {limit : τ}

theorem Wait.EndsBy.of_remaining {deadline : τ} {w : Wait τ} (hlt : w.start < deadline)
    (hlimit : w.limit = deadline - w.start) : w.EndsBy deadline where
  asked := hlt
  positive := hlimit ▸ sub_pos.mpr hlt
  ends := by rw [hlimit, add_sub_cancel]

theorem delay_le_of_not_missed {late : Bool} {delay : τ} (hlate : late = false)
    (h : (!late && outlasts delay (some limit)) = false) : delay ≤ limit := by
  simpa [outlasts, hlate] using h

theorem Peer.Reading.isHonoured {r : Except Failure (Bytes × Peer τ) × Surroundings τ}
    (h : p.Reading limit n s r) (hp : p.IsPunctual) (hlimit : 0 < limit) :
    r.2.clock ≤ s.clock + limit := by
  cases h with
  | atEnd => exact le_add_of_nonneg_right hlimit.le
  | missed => exact le_rfl
  | fails hsteps inTime =>
    have hlate := hp _ (hsteps ▸ List.mem_cons_self)
    exact add_le_add_right (delay_le_of_not_missed hlate inTime) s.clock
  | sends hsteps inTime =>
    have hlate := hp _ (hsteps ▸ List.mem_cons_self)
    exact add_le_add_right (delay_le_of_not_missed hlate inTime) s.clock

theorem Peer.Reading.isPunctual {bs : Bytes} (h : p.Reading limit n s (.ok (bs, q), t))
    (hp : p.IsPunctual) : q.IsPunctual := by
  cases h with
  | atEnd => exact hp
  | @sends step rest sent hsteps =>
    have hrest (next : PeerStep τ) (hnext : next ∈ rest) : next.late = false :=
      hp next (hsteps ▸ List.mem_cons_of_mem _ hnext)
    intro next hnext
    simp only [Peer.stepsAfter] at hnext
    split at hnext
    · obtain rfl | hnext := List.mem_cons.mp hnext
      · rfl
      · exact hrest next hnext
    · exact hrest next hnext

theorem Reads.isHonoured (h : Reads p s rs q t) (hp : p.IsPunctual) (hlimit : ∀ r ∈ rs, 0 < r.limit)
    (name : String) : ∀ r ∈ rs, (Wait.ofRead name r).IsHonoured := by
  induction h with
  | none => simp
  | read returns _ ih =>
    obtain ⟨hpos, hlimit⟩ := List.forall_mem_cons.mp hlimit
    have hread := Peer.Reading.of_exec returns
    exact List.forall_mem_cons.mpr
      ⟨hread.isHonoured hp hpos, ih (hread.isPunctual hp) hlimit⟩
  | failed fails =>
    have hread := Peer.Reading.of_exec fails
    exact List.forall_mem_singleton.mpr (hread.isHonoured hp (hlimit _ List.mem_cons_self))

/-- Time passes in the reads only: each begins when the one before it ends. -/
theorem Reads.clock (h : Reads p s rs q t) :
    rs.map Read.start ++ [t.clock] = s.clock :: rs.map Read.finish := by
  induction h with
  | none => rfl
  | read _ _ ih => rw [List.map_cons, List.cons_append, ih, List.map_cons]
  | failed => rfl

end

structure Accepts [Time τ] (limit : τ) (as : List (Arrival τ)) (s t : Surroundings τ)
    (r : Except Failure (Option (Peer τ))) : Prop where
  events : t.events = s.events ++ [.accept (some limit)]
  honoured : (∀ a ∈ as, a.IsPunctual) → (Wait.accept limit s t).IsHonoured
  came : ∀ p, r = .ok (some p) → ∃ a ∈ as, a.delivery = .peer p

section

variable [ExactTime τ]

theorem Accepts.of_exec {limit : τ} {as : List (Arrival τ)} {s t : Surroundings τ}
    {r : Except Failure (Option (Peer τ))} (h : exec (accept (some limit) as) s = (r, t)) :
    Accepts limit as s t r := by
  obtain ⟨rfl, rfl⟩ := Prod.ext_iff.mp h
  clear h
  cases as with
  | nil => exact ⟨rfl, fun _ => le_rfl, by rintro p ⟨⟩⟩
  | cons a rest =>
    rw [Tether.accept, Arrival.take]
    cases hmissed : a.isMissed (some limit) with
    | true => exact ⟨rfl, fun _ => le_rfl, by rintro p ⟨⟩⟩
    | false =>
      have hdelay (has : ∀ b ∈ a :: rest, b.IsPunctual) : s.clock + a.delay ≤ s.clock + limit := by
        have hlate := (has a List.mem_cons_self).comes
        exact add_le_add_right (delay_le_of_not_missed hlate hmissed) s.clock
      cases hd : a.delivery with
      | failure f => exact ⟨rfl, hdelay, by rintro p ⟨⟩⟩
      | nothing => exact ⟨rfl, hdelay, by rintro p ⟨⟩⟩
      | peer p =>
        refine ⟨rfl, hdelay, fun q hq => ⟨a, List.mem_cons_self, ?_⟩⟩
        obtain rfl : p = q := Option.some.inj (Except.ok.inj hq)
        exact hd

namespace Waits

variable {as : List (Arrival τ)} {s t : Surroundings τ} {ws : List (Wait τ)}

theorem events (h : Waits as s ws t) : t.waiting = s.waiting ++ ws.flatMap Wait.events := by
  induction h with
  | none => simp
  | alone comes =>
    simp [Surroundings.waiting, (Accepts.of_exec comes).events, Event.isWaiting, Wait.accept]
  | @turn a as s t u v w limit p q rs ws comes reads between next ih =>
    have haccept := (Accepts.of_exec comes).events
    have hreads : (rs.flatMap (Read.events p.name)).filter Event.isWaiting =
        rs.flatMap (Read.events p.name) := by
      rw [List.filter_eq_self]
      intro e he
      obtain ⟨r, -, he⟩ := List.mem_flatMap.mp he
      simp only [Read.events, List.mem_cons, List.not_mem_nil, or_false] at he
      rcases he with rfl | rfl <;> rfl
    have hmap : (rs.map (Wait.ofRead p.name)).flatMap Wait.events =
        rs.flatMap (Read.events p.name) := List.flatMap_map ..
    rw [ih, waiting_of_between between]
    simp only [Surroundings.waiting, reads.events, haccept, List.filter_append, hreads,
      List.flatMap_cons, List.flatMap_append, hmap, List.append_assoc]
    rfl

/-- Time passes in the calls that wait only: each begins when the one before it ends. -/
theorem clock (h : Waits as s ws t) :
    ws.map Wait.start ++ [t.clock] = s.clock :: ws.map Wait.finish := by
  induction h with
  | none => rfl
  | alone => rfl
  | @turn a as s t u v w limit p q rs ws comes reads between next ih =>
    rw [clock_of_between between] at ih
    have hstart : (rs.map (Wait.ofRead p.name)).map Wait.start = rs.map Read.start := List.map_map
    have hfinish : (rs.map (Wait.ofRead p.name)).map Wait.finish = rs.map Read.finish :=
      List.map_map
    calc (Wait.accept limit s t :: (rs.map (.ofRead p.name) ++ ws)).map Wait.start ++ [w.clock]
      _ = s.clock :: (rs.map Read.start ++ (ws.map Wait.start ++ [w.clock])) := by
        simp [hstart, Wait.accept]
      _ = s.clock :: ((rs.map Read.start ++ [u.clock]) ++ ws.map Wait.finish) := by simp [ih]
      _ = s.clock :: ((t.clock :: rs.map Read.finish) ++ ws.map Wait.finish) := by rw [reads.clock]
      _ = _ := by simp [hfinish, Wait.accept]

theorem clock_eq (h : Waits as s ws t) : t.clock = s.clock ∨ ∃ w ∈ ws, t.clock = w.finish := by
  have hmem : t.clock ∈ ws.map Wait.start ++ [t.clock] := by simp
  rw [h.clock, List.mem_cons, List.mem_map] at hmem
  exact hmem.imp_right fun ⟨w, hw, hfinish⟩ => ⟨w, hw, hfinish.symm⟩

theorem isHonoured (h : Waits as s ws t) (has : ∀ a ∈ as, a.IsPunctual)
    (hlimit : ∀ w ∈ ws, 0 < w.limit) : ∀ w ∈ ws, w.IsHonoured := by
  induction h with
  | none => simp
  | alone comes => exact List.forall_mem_singleton.mpr ((Accepts.of_exec comes).honoured has)
  | @turn a as s t u v w limit p q rs ws comes reads between next ih =>
    obtain ⟨-, hlimit⟩ := List.forall_mem_cons.mp hlimit
    obtain ⟨hreads, hnext⟩ := List.forall_mem_append.mp hlimit
    have haccept := Accepts.of_exec comes
    obtain ⟨b, hb, hp⟩ := haccept.came p rfl
    refine List.forall_mem_cons.mpr ⟨haccept.honoured has, List.forall_mem_append.mpr ⟨?_, ?_⟩⟩
    · rw [List.forall_mem_map] at hreads ⊢
      exact reads.isHonoured ((has b hb).reads p hp) hreads p.name
    · exact ih (fun c hc => has c (List.mem_cons_of_mem _ hc)) hnext

end Waits

namespace Gate

variable (g : Gate τ)

theorem readNonce_reads (deadline : τ) (p : Peer τ) (missing : Nat) (received : Bytes)
    (s : Surroundings τ) :
    ∃ rs q, Reads p s rs q (exec (readNonce deadline p missing received) s).2 ∧
      ∀ r ∈ rs, (Wait.ofRead p.name r).EndsBy deadline := by
  induction missing using Nat.strongRecOn generalizing p received s with
  | ind missing ih =>
    by_cases hm : missing = 0
    · subst hm
      rw [exec_readNonce_zero]
      exact ⟨[], p, .none, by simp⟩
    by_cases hlt : s.clock < deadline
    · rw [exec_readNonce_read hm hlt]
      rcases hexec : exec (p.readWithin (deadline - s.clock) missing) s with ⟨f | ⟨chunk, q⟩, t⟩
      · exact ⟨_, p, .failed hexec, List.forall_mem_singleton.mpr (.of_remaining hlt rfl)⟩
      · dsimp only
        split
        · exact ⟨_, q, .read hexec .none, List.forall_mem_singleton.mpr (.of_remaining hlt rfl)⟩
        · rename_i hchunk
          obtain ⟨rs, q', hreads, hrs⟩ := ih _ (missing_lt hm hchunk) q (received ++ chunk) t
          rw [(Peer.Reading.of_exec hexec).name] at hrs
          exact ⟨_, q', .read hexec hreads,
            List.forall_mem_cons.mpr ⟨.of_remaining hlt rfl, hrs⟩⟩
    · rw [exec_readNonce_of_le hm (not_lt.mp hlt)]
      exact ⟨[], p, .none, by simp⟩

theorem authenticate_reads (p : Peer τ) (timeout : τ) (s : Surroundings τ) :
    ∃ rs q t, Reads p s rs q t ∧ (∀ r ∈ rs, (Wait.ofRead p.name r).EndsBy (s.clock + timeout)) ∧
      Reaches Change.IsBetween t (exec (g.authenticate p timeout) s).2 := by
  obtain ⟨rs, q, hreads, hrs⟩ := readNonce_reads (s.clock + timeout) p g.nonce.size [] s
  refine ⟨rs, q, _, hreads, hrs, ?_⟩
  simp only [authenticate, exec_bind, exec_now, exec_tryCatch]
  rcases exec (readNonce (s.clock + timeout) p g.nonce.size []) s with
    ⟨f | _ | ⟨received, q⟩, t⟩
  · dsimp only
    by_cases hf : f.isSystem
    · rw [if_pos hf, exec_bind, exec_log]
      exact .change (Change.IsBetween.log .debug _) t
    · rw [if_neg hf]
      exact .refl t
  · exact .refl t
  · have hunlimited := Reaches.change (Change.IsBetween.unlimited q.name) t
    simp only [Peer.exec_setTimeout, exec_bind, exec_pure, exec_lift]
    cases g.nonce.admits received with
    | error f => exact hunlimited
    | ok b => cases b <;> exact hunlimited

theorem awaitFirst_waits (deadline : τ) (as : List (Arrival τ)) (s : Surroundings τ) :
    ∃ ws, Waits as s ws (exec (g.awaitFirst deadline as) s).2 ∧ ∀ w ∈ ws, w.EndsBy deadline := by
  induction as generalizing s with
  | nil =>
    rw [awaitFirst, exec_bind, exec_now]
    dsimp only
    split
    · exact ⟨[], .none, by simp⟩
    · rename_i hpos
      have hlt := sub_pos.mp (not_le.mp hpos)
      have haccept : exec (accept (some (deadline - s.clock)) []) s = _ := rfl
      refine ⟨_, .alone haccept (by rintro p ⟨⟩), List.forall_mem_singleton.mpr ?_⟩
      exact .of_remaining hlt rfl
  | cons a rest ih =>
    by_cases hlt : s.clock < deadline
    · have hall (t : Surroundings τ) : (Wait.accept (deadline - s.clock) s t).EndsBy deadline :=
        .of_remaining hlt rfl
      rw [g.exec_awaitFirst_cons a rest hlt]
      rcases haccept : exec (accept (some (deadline - s.clock)) (a :: rest)) s with ⟨f | _ | p, t⟩
      · exact ⟨_, .alone haccept (by rintro p ⟨⟩), List.forall_mem_singleton.mpr (hall t)⟩
      · exact ⟨_, .alone haccept (by rintro p ⟨⟩), List.forall_mem_singleton.mpr (hall t)⟩
      · obtain ⟨rs, q, v, hreads, hrs, hbetween⟩ := g.authenticate_reads p (deadline - t.clock) t
        rw [add_sub_cancel] at hrs
        have hturn {ws : List (Wait τ)} (hws : ∀ w ∈ ws, w.EndsBy deadline) :
            ∀ w ∈ .accept (deadline - s.clock) s t :: (rs.map (.ofRead p.name) ++ ws),
              w.EndsBy deadline :=
          List.forall_mem_cons.mpr
            ⟨hall t, List.forall_mem_append.mpr ⟨List.forall_mem_map.mpr hrs, hws⟩⟩
        dsimp only
        rcases hcheck : exec (g.authenticate p (deadline - t.clock)) t with ⟨f | _ | q, u⟩ <;>
          rw [hcheck] at hbetween
        · exact ⟨_, .turn haccept hreads hbetween .none, hturn (by simp)⟩
        · have hlog := hbetween.trans (.change (.log .warning rejectedText) _)
          have hclose := hlog.trans (.change (.closePeer p.name) _)
          obtain ⟨ws, hnext, hws⟩ := ih _
          exact ⟨_, .turn haccept hreads hclose hnext, hturn hws⟩
        · exact ⟨_, .turn haccept hreads hbetween .none, hturn (by simp)⟩
    · rw [g.awaitFirst_of_le (a :: rest) (not_lt.mp hlt)]
      exact ⟨[], .none, by simp⟩

def firstPhase (as : List (Arrival τ)) : Act τ (Option (Peer τ × List (Arrival τ))) := do
  let start ← now
  g.awaitFirst (start + g.deadline) as

theorem run_eq_firstPhase (l : Listener τ) :
    g.run l = do
      match ← g.firstPhase l.arrivals with
      | none =>
        Act.log gateLogName .warning g.abandonedText
        l.close
        return false
      | some (p, rest) =>
        Act.log gateLogName .debug s!"namespace connection admitted on {l.address}"
        attend p (g.hand p)
        g.attendAll rest
        return true := rfl

/-- How the calls that wait in the first phase keep the deadline. -/
structure KeepsDeadline (deadline : τ) (as : List (Arrival τ)) (s t : Surroundings τ)
    (ws : List (Wait τ)) : Prop where
  waits : Waits as s ws t
  /-- There are no other calls that wait. -/
  all : t.waiting = s.waiting ++ ws.flatMap Wait.events
  /-- Time passes in them only: each begins when the one before it ends. -/
  clock : ws.map Wait.start ++ [t.clock] = s.clock :: ws.map Wait.finish
  asked : ∀ w ∈ ws, w.EndsBy deadline
  honoured : (∀ a ∈ as, a.IsPunctual) → ∀ w ∈ ws, w.IsHonoured
  finishes : (∀ w ∈ ws, w.IsHonoured) → t.clock ≤ deadline

/-- In the first phase every call that waits is asked for before the deadline and given a limit
that ends no later, whatever comes and whatever it brings. If the calls keep to their limits, the
phase is over by the deadline. -/
theorem firstPhase_keepsDeadline (hpos : 0 < g.deadline) (as : List (Arrival τ))
    (s : Surroundings τ) :
    ∃ ws, KeepsDeadline (s.clock + g.deadline) as s (exec (g.firstPhase as) s).2 ws := by
  obtain ⟨ws, hwaits, hends⟩ := g.awaitFirst_waits (s.clock + g.deadline) as s
  refine ⟨ws, ?_⟩
  exact {
    waits := hwaits
    all := hwaits.events
    clock := hwaits.clock
    asked := hends
    honoured := fun has => hwaits.isHonoured has fun w hw => (hends w hw).positive
    finishes := by
      intro hws
      rcases hwaits.clock_eq with h | ⟨w, hw, h⟩
      · exact h.trans_le (le_add_of_nonneg_right hpos.le)
      · exact h.trans_le ((hws w hw).trans (hends w hw).ends) }

theorem firstPhase_keepsDeadline_patient :
    0 < patient.deadline ∧ (∀ a ∈ arriving.arrivals, a.IsPunctual) ∧
      ∃ ws, KeepsDeadline 10 arriving.arrivals { clock := 0 }
        (exec (patient.firstPhase arriving.arrivals) { clock := 0 }).2 ws ∧
        (exec (patient.firstPhase arriving.arrivals) { clock := 0 }).2.clock ≤ 10 := by
  have hpos : 0 < patient.deadline := by decide
  have has : ∀ a ∈ arriving.arrivals, a.IsPunctual := by
    simp only [arriving, List.forall_mem_cons, List.not_mem_nil, false_imp_iff, implies_true,
      and_true]
    refine ⟨⟨rfl, ?_⟩, ⟨rfl, ?_⟩, ⟨rfl, ?_⟩⟩ <;> simp [Peer.IsPunctual]
  obtain ⟨ws, hkeeps⟩ := patient.firstPhase_keepsDeadline hpos arriving.arrivals { clock := 0 }
  have hdeadline : (0 : ℚ) + patient.deadline = 10 := by decide +kernel
  rw [hdeadline] at hkeeps
  exact ⟨hpos, has, ws, hkeeps, hkeeps.finishes (hkeeps.honoured has)⟩

end Gate

end

end Tether
