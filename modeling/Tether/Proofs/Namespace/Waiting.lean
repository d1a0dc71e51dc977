import Tether.Proofs.Namespace.Admission

/-! # Connections that wait

The connections that wait when the first phase starts have their turns one after
the other, all of them before the one deadline. How long each of them holds up
those behind it can be told from what its peer does.
-/

namespace Tether

variable {τ : Type} [ExactTime τ]

open Act

def Arrival.waiting (p : Peer τ) : Arrival τ := { delay := 0, delivery := .peer p }

def Peer.Presents (p : Peer τ) (n : Nonce) : Prop :=
  ∃ step rest extra, p.steps = step :: rest ∧ step.delay = 0 ∧ step.act = .send (n.bytes ++ extra)

theorem Arrival.waiting_regular {p : Peer τ} (h : p.FailsBySystem) : (waiting p).IsRegular := by
  refine ⟨fun q hq => ?_, nofun⟩
  obtain rfl : p = q := Delivery.peer.inj hq
  exact h

theorem exec_accept_waiting {limit : τ} (hlimit : 0 < limit) (p : Peer τ) (as : List (Arrival τ))
    (s : Surroundings τ) :
    ∃ t, exec (accept (some limit) (.waiting p :: as)) s = (.ok (some p), t) ∧
      t.clock = s.clock ∧ t.servings = s.servings := by
  have hmissed : (Arrival.waiting p).isMissed (some limit) = false := by
    simp [Arrival.isMissed, Arrival.waiting, outlasts, not_lt.mpr hlimit.le]
  rw [accept, Arrival.take, hmissed]
  refine ⟨_, rfl, add_zero _, ?_⟩
  simp [Surroundings.servings]

namespace Gate

/-- The time at which reading the missing bytes from a connection is over. -/
def readUntil (deadline t : τ) (missing : Nat) : List (PeerStep τ) → τ
  | [] => t
  | step :: rest =>
    if missing = 0 ∨ deadline ≤ t then t
    else if step.isMissed (some (deadline - t)) then deadline
    else match step.act with
      | .fail _ => t + step.delay
      | .send bs =>
        if bs = [] then t + step.delay
        else readUntil deadline (t + step.delay) (missing - bs.length) rest

section

variable {deadline t : τ}

theorem readUntil_zero (steps : List (PeerStep τ)) : readUntil deadline t 0 steps = t := by
  cases steps <;> simp [readUntil]

theorem readUntil_of_le (h : deadline ≤ t) (missing : Nat) (steps : List (PeerStep τ)) :
    readUntil deadline t missing steps = t := by
  cases steps <;> simp [readUntil, h]

/-- What is left of a step that sends more than is missing makes no difference. -/
theorem readUntil_stepsAfter (missing : Nat) (bs : Bytes) (rest : List (PeerStep τ)) :
    readUntil deadline t (missing - (bs.take missing).length) (Peer.stepsAfter missing bs rest) =
      readUntil deadline t (missing - bs.length) rest := by
  by_cases hlt : missing < bs.length
  · rw [show missing - bs.length = 0 by omega,
      show missing - (bs.take missing).length = 0 by simp; omega, readUntil_zero, readUntil_zero]
  · rw [List.take_of_length_le (not_lt.mp hlt), Peer.stepsAfter, if_neg hlt]

end

theorem readNonce_clock (deadline : τ) (p : Peer τ) (missing : Nat) (received : Bytes)
    (s : Surroundings τ) :
    (exec (readNonce deadline p missing received) s).2.clock =
      readUntil deadline s.clock missing p.steps := by
  induction missing using Nat.strongRecOn generalizing p received s with
  | ind missing ih =>
    by_cases hm : missing = 0
    · subst hm
      rw [exec_readNonce_zero, readUntil_zero]
    by_cases hlt : s.clock < deadline
    · rw [exec_readNonce_of_lt hm hlt]
      obtain ⟨name, _ | ⟨step, rest⟩, timeout⟩ := p
      · rw [Peer.exec_receive_nil rfl]
        rfl
      · rw [readUntil, if_neg (by simp [hm, hlt])]
        rcases hmissed : step.isMissed (some (deadline - s.clock)) with _ | _
        · rw [if_neg Bool.false_ne_true]
          rcases ha : step.act with bs | f
          · rw [Peer.exec_receive_send rfl hmissed ha]
            dsimp only
            by_cases hbs : bs = []
            · rw [hbs, List.take_nil, if_pos rfl, if_pos rfl]
              rfl
            · have hpos := List.length_pos_iff.mpr hbs
              have htake : bs.take missing ≠ [] := by simp [hm, hbs]
              have hless : missing - (bs.take missing).length < missing := by
                rw [List.length_take]
                omega
              rw [if_neg htake, if_neg hbs, ih _ hless]
              exact readUntil_stepsAfter missing bs rest
          · rw [Peer.exec_receive_fail rfl hmissed ha]
            rfl
        · rw [Peer.exec_receive_missed rfl hmissed, if_pos rfl]
          exact add_sub_cancel _ _
    · rw [exec_readNonce_of_le hm (not_lt.mp hlt), readUntil_of_le (not_lt.mp hlt)]

def turnEnd (g : Gate τ) (deadline t : τ) (p : Peer τ) : τ :=
  readUntil deadline t g.nonce.size p.steps

theorem authenticate_clock (g : Gate τ) (p : Peer τ) (timeout : τ) (s : Surroundings τ) :
    (exec (g.authenticate p timeout) s).2.clock = g.turnEnd (s.clock + timeout) s.clock p := by
  have hread := readNonce_clock (s.clock + timeout) p g.nonce.size [] s
  simp only [authenticate, exec_bind, exec_now, exec_tryCatch]
  rcases e : exec (readNonce (s.clock + timeout) p g.nonce.size []) s with
    ⟨f | _ | ⟨received, q⟩, t⟩ <;> rw [e] at hread
  · dsimp only
    by_cases hf : f.isSystem
    · rw [if_pos hf, exec_bind, exec_log]
      exact (t.logged_clock _ _ _).trans hread
    · rw [if_neg hf]
      exact hread
  · exact hread
  · simp only [Peer.exec_setTimeout, exec_bind, exec_pure, exec_lift]
    cases g.nonce.admits received with
    | error f => exact hread
    | ok b => cases b <;> exact hread

def turnsEnd (g : Gate τ) (deadline t : τ) (ps : List (Peer τ)) : τ :=
  ps.foldl (g.turnEnd deadline) t

def turns (g : Gate τ) (deadline : τ) : τ → List (Peer τ) → List (Peer τ × τ)
  | _, [] => []
  | t, p :: ps =>
    if t < deadline then (p, t) :: g.turns deadline (g.turnEnd deadline t p) ps else []

variable (g : Gate τ) {deadline t : τ}

theorem turnsEnd_of_le (h : deadline ≤ t) (ps : List (Peer τ)) : g.turnsEnd deadline t ps = t := by
  induction ps with
  | nil => rfl
  | cons p ps ih => rwa [turnsEnd, List.foldl_cons, turnEnd, readUntil_of_le h]

theorem mem_turns_append_singleton {ahead : List (Peer τ)} {p : Peer τ} {v : Peer τ × τ} :
    v ∈ g.turns deadline t (ahead ++ [p]) ↔ v ∈ g.turns deadline t ahead ∨
      g.turnsEnd deadline t ahead < deadline ∧ v = (p, g.turnsEnd deadline t ahead) := by
  induction ahead generalizing t with
  | nil =>
    rw [List.nil_append, turns, turns, turns, turnsEnd, List.foldl_nil]
    split <;> simp [*]
  | cons q ahead ih =>
    rw [List.cons_append, turns, turns]
    split
    · rw [List.mem_cons, List.mem_cons, ih, or_assoc]
      rfl
    · rename_i h
      simp [g.turnsEnd_of_le (not_lt.mp h), h]

/-- At its turn, a connection that sends the whole nonce at once is admitted. -/
theorem admits_of_presents {p : Peer τ} (hp : p.Presents g.nonce) (h : t < deadline) :
    g.Admits deadline t p := by
  obtain ⟨step, rest, extra, hsteps, hdelay, hsend⟩ := hp
  have hgives : step.Gives deadline t (g.nonce.bytes ++ extra) :=
    ⟨h, .inr (by rw [hdelay, add_zero]; exact h.le), hsend⟩
  rw [Admits, hsteps]
  by_cases hbytes : g.nonce.bytes = []
  · rw [hbytes]
    exact .all
  · exact .enough hgives hbytes

theorem awaitFirst_of_le (as : List (Arrival τ)) {s : Surroundings τ} (h : deadline ≤ s.clock) :
    exec (g.awaitFirst deadline as) s = (.ok none, s) := by
  cases as <;>
    simp only [awaitFirst, exec_bind, exec_now, if_pos (sub_nonpos.mpr h), exec_pure]

theorem exec_awaitFirst_cons (a : Arrival τ) (rest : List (Arrival τ))
    {s : Surroundings τ} (hlt : s.clock < deadline) :
    exec (g.awaitFirst deadline (a :: rest)) s =
      match exec (accept (some (deadline - s.clock)) (a :: rest)) s with
      | (.ok (some p), t) => match exec (g.authenticate p (deadline - t.clock)) t with
        | (.ok (some q), u) => (.ok (some (q, rest)), u)
        | (.ok none, u) => exec (g.awaitFirst deadline rest)
          ((Change.event (.closePeer p.name)).apply (u.logged gateLogName .warning rejectedText))
        | (.error f, u) => (.error f, u)
      | (.ok none, t) => (.ok none, t)
      | (.error f, t) => (.error f, t) := by
  rw [awaitFirst, exec_bind, exec_now]
  dsimp only
  rw [if_neg (not_le.mpr (sub_pos.mpr hlt)), exec_bind]
  rcases exec (accept (some (deadline - s.clock)) (a :: rest)) s with ⟨f | _ | p, t⟩
  · rfl
  · rfl
  · simp only [exec_bind, exec_now]
    rcases exec (g.authenticate p (deadline - t.clock)) t with ⟨f | _ | q, u⟩
    · rfl
    · simp only [exec_bind, exec_log, Peer.close, exec_emit]
      rfl
    · rfl

theorem awaitFirst_turn (hn : g.nonce.IsAscii) {p : Peer τ} (hp : p.FailsBySystem)
    (rest : List (Arrival τ)) {s : Surroundings τ} (hlt : s.clock < deadline) :
    ∃ u, u.servings = s.servings ∧
      ((g.Admits deadline s.clock p ∧ ∃ q, q.name = p.name ∧
          exec (g.awaitFirst deadline (.waiting p :: rest)) s = (.ok (some (q, rest)), u)) ∨
        (¬ g.Admits deadline s.clock p ∧ u.clock = g.turnEnd deadline s.clock p ∧
          exec (g.awaitFirst deadline (.waiting p :: rest)) s =
            exec (g.awaitFirst deadline rest) u)) := by
  have hpos : 0 < deadline - s.clock := sub_pos.mpr hlt
  obtain ⟨t, ht, hclock, hservings⟩ := exec_accept_waiting hpos p rest s
  obtain ⟨o, ho, hadmits, hname⟩ := g.authenticate_outcome p (deadline - t.clock) t hn hp
  have hread := g.authenticate_adds p (deadline - t.clock) t
  have hend := g.authenticate_clock p (deadline - t.clock) t
  have hturn : exec (g.awaitFirst deadline (.waiting p :: rest)) s =
      match exec (g.authenticate p (deadline - t.clock)) t with
      | (.ok (some q), u) => (.ok (some (q, rest)), u)
      | (.ok none, u) => exec (g.awaitFirst deadline rest)
        ((Change.event (.closePeer p.name)).apply (u.logged gateLogName .warning rejectedText))
      | (.error f, u) => (.error f, u) := by
    rw [g.exec_awaitFirst_cons _ rest hlt, ht]
  rcases e : exec (g.authenticate p (deadline - t.clock)) t with ⟨r, u⟩
  rw [e] at ho hread hend hturn
  rw [add_sub_cancel, hclock] at hadmits hend
  obtain rfl : r = .ok o := ho
  have hserved : u.servings = s.servings := by
    rw [hread.servings, List.append_nil, hservings]
  cases o with
  | some q => exact ⟨u, hserved, .inl ⟨hadmits.mp rfl, q, hname q rfl, hturn⟩⟩
  | none =>
    refine ⟨_, ?_, .inr ⟨hadmits.not.mp Bool.false_ne_true, ?_, hturn⟩⟩
    · have hlog := (Adds.logged u .warning rejectedText).closePeer p.name
      rw [hlog.servings, List.append_nil, hserved]
    · exact (u.logged_clock _ _ _).trans hend

/-- The first connection that brings the nonce in its turn is the one that is admitted; if there
is none, the wait goes on with those that come later. -/
theorem awaitFirst_waiting (hn : g.nonce.IsAscii) (deadline : τ) {later : List (Arrival τ)}
    (hlater : ∀ a ∈ later, a.IsRegular) {ps : List (Peer τ)} (hps : ∀ p ∈ ps, p.FailsBySystem)
    (s : Surroundings τ) :
    ∃ t, t.servings = s.servings ∧
      match (g.turns deadline s.clock ps).find? fun v => g.Admits deadline v.2 v.1 with
      | some v => ∃ q rest, q.name = v.1.name ∧ (∀ a ∈ rest, a.IsRegular) ∧
        exec (g.awaitFirst deadline (ps.map .waiting ++ later)) s = (.ok (some (q, rest)), t)
      | none => t.clock = g.turnsEnd deadline s.clock ps ∧
        exec (g.awaitFirst deadline (ps.map .waiting ++ later)) s =
          exec (g.awaitFirst deadline later) t := by
  -- The deadline stays while the clock moves on, so the turns of the rest start where one ends.
  induction ps generalizing s with
  | nil => exact ⟨s, rfl, rfl, rfl⟩
  | cons p ps ih =>
    obtain ⟨hp, hps⟩ := List.forall_mem_cons.mp hps
    by_cases hlt : s.clock < deadline
    · obtain ⟨u, hserved, hturn⟩ := g.awaitFirst_turn hn hp (ps.map .waiting ++ later) hlt
      rw [turns, if_pos hlt, List.map_cons, List.cons_append]
      obtain ⟨ha, q, hname, hturn⟩ | ⟨ha, hend, hturn⟩ := hturn
      · rw [List.find?_cons_of_pos (by simpa using ha)]
        refine ⟨u, hserved, q, _, hname, fun a ha => ?_, hturn⟩
        rcases List.mem_append.mp ha with ha | ha
        · obtain ⟨q, hq, rfl⟩ := List.mem_map.mp ha
          exact Arrival.waiting_regular (hps q hq)
        · exact hlater a ha
      · obtain ⟨t, ht, hrest⟩ := ih hps u
        rw [List.find?_cons_of_neg (by simpa using ha), hturn]
        rw [hend] at hrest
        exact ⟨t, ht.trans hserved, hrest⟩
    · have hle := not_lt.mp hlt
      rw [turns, if_neg hlt, turnsEnd_of_le _ hle, g.awaitFirst_of_le _ hle]
      exact ⟨s, rfl, rfl, (g.awaitFirst_of_le _ hle).symm⟩

variable {l : Listener τ} {later : List (Arrival τ)} {ps : List (Peer τ)} {label : String}
  {react : Nat → Peer τ → Reaction}

/-- If a connection that waits brings the nonce in its turn, the first one to do so is handed to
the server before any other. -/
theorem run_of_find?_eq_some (hshare : g.share = .installed label react) (hn : g.nonce.IsAscii)
    (harrivals : l.arrivals = ps.map .waiting ++ later) (hlater : ∀ a ∈ later, a.IsRegular)
    (hps : ∀ p ∈ ps, p.FailsBySystem) (s : Surroundings τ) {v : Peer τ × τ}
    (hv : (g.turns (s.clock + g.deadline) s.clock ps).find?
      (fun v => g.Admits (s.clock + g.deadline) v.2 v.1) = some v) :
    ∃ t more, exec (g.run l) s = (.ok true, t) ∧
      t.servings = s.servings ++ (label, v.1.name, g.root) :: more := by
  obtain ⟨t, hserved, hawait⟩ := g.awaitFirst_waiting hn (s.clock + g.deadline) hlater hps s
  rw [hv, ← harrivals] at hawait
  obtain ⟨q, rest, hname, hrest, hawait⟩ := hawait
  simp only [run, exec_bind, exec_now, hawait, exec_log, exec_pure]
  have hlog := Adds.logged t .debug s!"namespace connection admitted on {l.address}"
  generalize t.logged _ _ _ = t' at hlog ⊢
  obtain ⟨u, hu, hattend⟩ := exec_attend q (g.hand_adds hshare q t')
  obtain ⟨w, serving, hw, hserving⟩ := g.attendAll_spec hshare hn rest hrest u
  have hall := ((hlog.trans hattend).trans hserving).servings
  rw [hserved, hname, List.append_assoc] at hall
  exact ⟨w, _, by simp only [hu, hw], hall⟩

theorem run_of_find?_eq_none (hn : g.nonce.IsAscii)
    (harrivals : l.arrivals = ps.map .waiting ++ later) (hlater : ∀ a ∈ later, a.IsRegular)
    (hps : ∀ p ∈ ps, p.FailsBySystem) (hclose : l.close = emit .closeListener)
    (s : Surroundings τ)
    (hlast : s.clock + g.deadline ≤ g.turnsEnd (s.clock + g.deadline) s.clock ps)
    (hnone : (g.turns (s.clock + g.deadline) s.clock ps).find?
      (fun v => g.Admits (s.clock + g.deadline) v.2 v.1) = none) :
    ∃ t, exec (g.run l) s = (.ok false, t) ∧ t.servings = s.servings := by
  obtain ⟨t, hserved, hawait⟩ := g.awaitFirst_waiting hn (s.clock + g.deadline) hlater hps s
  rw [hnone, ← harrivals] at hawait
  obtain ⟨hclock, hawait⟩ := hawait
  rw [g.awaitFirst_of_le later (hclock ▸ hlast)] at hawait
  simp only [run, exec_bind, exec_now, hawait, exec_log, hclose, exec_emit, exec_pure]
  refine ⟨_, rfl, ?_⟩
  rw [← hserved]
  simp [Surroundings.servings]

/-- How a run ends in which a connection that sends the whole nonce at once waits behind others. -/
structure Reached (g : Gate τ) (label : String) (s t : Surroundings τ) (answer : Bool)
    (ahead : List (Peer τ)) (p : Peer τ) : Prop where
  /-- It is abandoned unless one ahead is admitted or all of them together leave time. -/
  admitted : answer = true ↔
    (∃ v ∈ g.turns (s.clock + g.deadline) s.clock ahead,
      g.Admits (s.clock + g.deadline) v.2 v.1) ∨
    g.turnsEnd (s.clock + g.deadline) s.clock ahead < s.clock + g.deadline
  /-- The server is first handed the connection, or one ahead of it that brings the nonce too. -/
  handed : answer = true → ∃ v ∈ g.turns (s.clock + g.deadline) s.clock (ahead ++ [p]),
    g.Admits (s.clock + g.deadline) v.2 v.1 ∧
      ∃ more, t.servings = s.servings ++ (label, v.1.name, g.root) :: more
  abandoned : answer = false → t.servings = s.servings

/-- A connection that sends the whole nonce at once is passed over for nothing but lack of time,
and those ahead of it share the one deadline with it. -/
theorem run_reached (hshare : g.share = .installed label react) (hn : g.nonce.IsAscii)
    {ahead : List (Peer τ)} {p : Peer τ}
    (harrivals : l.arrivals = (ahead ++ [p]).map .waiting ++ later)
    (hlater : ∀ a ∈ later, a.IsRegular) (hreads : ∀ q ∈ ahead ++ [p], q.FailsBySystem)
    (hpresents : p.Presents g.nonce) (hclose : l.close = emit .closeListener)
    (s : Surroundings τ) :
    ∃ answer t, exec (g.run l) s = (.ok answer, t) ∧ g.Reached label s t answer ahead p := by
  cases hfind : (g.turns (s.clock + g.deadline) s.clock (ahead ++ [p])).find?
    fun v => g.Admits (s.clock + g.deadline) v.2 v.1 with
  | some v =>
    obtain ⟨t, more, hrun, hserved⟩ :=
      g.run_of_find?_eq_some hshare hn harrivals hlater hreads s hfind
    have hmem := List.mem_of_find?_eq_some hfind
    have ha : g.Admits (s.clock + g.deadline) v.2 v.1 := by simpa using List.find?_some hfind
    refine ⟨true, t, hrun, ⟨fun _ => ?_, fun _ => rfl⟩,
      fun _ => ⟨v, hmem, ha, more, hserved⟩, nofun⟩
    obtain hahead | ⟨hlt, -⟩ := g.mem_turns_append_singleton.mp hmem
    · exact .inl ⟨v, hahead, ha⟩
    · exact .inr hlt
  | none =>
    have hnone := List.find?_eq_none.mp hfind
    have hle : s.clock + g.deadline ≤ g.turnsEnd (s.clock + g.deadline) s.clock ahead := by
      refine not_lt.mp fun hlt => ?_
      have ha := g.admits_of_presents hpresents hlt
      exact hnone (p, _) (g.mem_turns_append_singleton.mpr (.inr ⟨hlt, rfl⟩)) (decide_eq_true ha)
    have hlast : g.turnsEnd (s.clock + g.deadline) s.clock (ahead ++ [p]) =
        g.turnsEnd (s.clock + g.deadline) s.clock ahead := by
      rw [turnsEnd, List.foldl_append]
      exact readUntil_of_le hle _ _
    obtain ⟨t, hrun, hserved⟩ :=
      g.run_of_find?_eq_none hn harrivals hlater hreads hclose s (hlast ▸ hle) hfind
    refine ⟨false, t, hrun, ⟨nofun, ?_⟩, nofun, fun _ => hserved⟩
    rintro (⟨v, hv, ha⟩ | hlt)
    · exact absurd (decide_eq_true ha) (hnone v (g.mem_turns_append_singleton.mpr (.inl hv)))
    · exact absurd hlt (not_lt.mpr hle)

/-- A connection whose peer sends nothing for a long time. -/
def silent : Peer ℚ := { name := "silent", steps := [⟨100, .send [0], false⟩] }

def halting : Peer ℚ := { name := "halting", steps := [⟨1, .send [97], false⟩] }

def rightful : Peer ℚ := { name := "rightful", steps := [⟨0, .send [97, 98], false⟩] }

def delivering (ps : List (Peer ℚ)) : Listener ℚ where
  address := "127.0.0.1:4000"
  arrivals := ps.map .waiting
  close := emit .closeListener

theorem delivering_arrivals (ps : List (Peer ℚ)) :
    (delivering ps).arrivals = ps.map .waiting ++ [] :=
  (List.append_nil _).symm

theorem rightful_presents : rightful.Presents patient.nonce :=
  ⟨_, [], [], rfl, rfl, rfl⟩

theorem patient_isAscii : patient.nonce.IsAscii := by
  simp [patient, Nonce.IsAscii]

theorem run_reached_halting :
    patient.nonce.IsAscii ∧ (∀ q ∈ [halting] ++ [rightful], q.FailsBySystem) ∧
      rightful.Presents patient.nonce ∧
      ∃ t, exec (patient.run (delivering [halting, rightful])) { clock := 0 } = (.ok true, t) ∧
        patient.Reached "files" { clock := 0 } t true [halting] rightful := by
  have hreads : ∀ q ∈ [halting] ++ [rightful], q.FailsBySystem := by
    simp [halting, rightful, Peer.FailsBySystem]
  have htime : patient.turnsEnd (0 + patient.deadline) 0 [halting] < 0 + patient.deadline := by
    decide +kernel
  obtain ⟨answer, t, hrun, hreached⟩ := patient.run_reached rfl patient_isAscii
    (delivering_arrivals [halting, rightful]) (by simp) hreads rightful_presents rfl { clock := 0 }
  obtain rfl : answer = true := hreached.admitted.mpr (.inr htime)
  exact ⟨patient_isAscii, hreads, rightful_presents, t, hrun, hreached⟩

/-- A silent peer ahead may take all the time there is. -/
theorem silent_outlasts_rightful :
    rightful.Presents patient.nonce ∧ 0 < patient.deadline ∧
      (delivering [silent, rightful]).arrivals = [silent, rightful].map .waiting ∧
      ∃ t, exec (patient.run (delivering [silent, rightful])) { clock := 0 } = (.ok false, t) ∧
        t.servings = [] := by
  have hreads : ∀ q ∈ [silent, rightful], q.FailsBySystem := by
    simp [silent, rightful, Peer.FailsBySystem]
  refine ⟨rightful_presents, by decide, rfl, ?_⟩
  exact patient.run_of_find?_eq_none patient_isAscii (delivering_arrivals [silent, rightful])
    (by simp) hreads rfl { clock := 0 } (by decide +kernel) (by decide +kernel)

end Gate

end Tether
