import Tether.Proofs.Namespace.Admission

/-! # The bytes that a check takes

The check of a connection takes as many bytes off its stream as the nonce has, or all there are
if there are fewer, and no byte more. What it answers and what it leaves is decided by the bytes,
however they are cut into chunks.
-/

namespace Tether

variable {τ : Type}

open Act

namespace Peer

def readWithin [Time τ] (p : Peer τ) (limit : τ) (n : Nat) : Act τ (Bytes × Peer τ) := do
  let p ← p.setTimeout (some limit)
  p.receive n

def asked (p : Peer τ) (limit : τ) (n : Nat) (s : Surroundings τ) : Surroundings τ :=
  (Change.event (.receive p.name n)).apply
    ((Change.event (.setTimeout p.name (some limit))).apply s)

/-- Everything that a read within a limit can come to. -/
inductive Reading [Time τ] (p : Peer τ) (limit : τ) (n : Nat) (s : Surroundings τ) :
    Except Failure (Bytes × Peer τ) × Surroundings τ → Prop
  | atEnd (h : p.steps = []) :
    Reading p limit n s (.ok ([], { p with timeout := some limit }), p.asked limit n s)
  | missed {step : PeerStep τ} {rest : List (PeerStep τ)} (h : p.steps = step :: rest)
    (late : step.isMissed (some limit) = true) :
    Reading p limit n s (.error (.outside .timeout "timed out"),
      (Change.clock (· + limit)).apply (p.asked limit n s))
  | fails {step : PeerStep τ} {rest : List (PeerStep τ)} {f : Failure} (h : p.steps = step :: rest)
    (inTime : step.isMissed (some limit) = false) (act : step.act = .fail f) :
    Reading p limit n s (.error f, (Change.clock (· + step.delay)).apply (p.asked limit n s))
  | sends {step : PeerStep τ} {rest : List (PeerStep τ)} {bs : Bytes} (h : p.steps = step :: rest)
    (inTime : step.isMissed (some limit) = false) (act : step.act = .send bs) :
    Reading p limit n s
      (.ok (bs.take n, { p with timeout := some limit, steps := stepsAfter n bs rest }),
        (Change.clock (· + step.delay)).apply (p.asked limit n s))

theorem exec_readWithin [Time τ] (p : Peer τ) (limit : τ) (n : Nat) (s : Surroundings τ) :
    exec (p.readWithin limit n) s = exec (receive { p with timeout := some limit } n)
      ((Change.event (.setTimeout p.name (some limit))).apply s) := rfl

theorem reading [Time τ] (p : Peer τ) (limit : τ) (n : Nat) (s : Surroundings τ) :
    p.Reading limit n s (exec (p.readWithin limit n) s) := by
  rw [exec_readWithin]
  obtain ⟨name, _ | ⟨step, rest⟩, timeout⟩ := p
  · rw [exec_receive_nil rfl]
    exact .atEnd rfl
  · cases hmissed : step.isMissed (some limit) with
    | true =>
      rw [exec_receive_missed rfl hmissed]
      exact .missed rfl hmissed
    | false =>
      cases hact : step.act with
      | fail f =>
        rw [exec_receive_fail rfl hmissed hact]
        exact .fails rfl hmissed hact
      | send bs =>
        rw [exec_receive_send rfl hmissed hact]
        exact .sends rfl hmissed hact

theorem Reading.of_exec [Time τ] {p : Peer τ} {limit : τ} {n : Nat} {s : Surroundings τ}
    {r : Except Failure (Bytes × Peer τ) × Surroundings τ}
    (h : exec (p.readWithin limit n) s = r) : p.Reading limit n s r :=
  h ▸ p.reading limit n s

end Peer

/-- A read from a connection: when it begins and when it ends, its limit, how many bytes it asks
for, and the bytes that it returns. -/
structure Read (τ : Type) where
  start : τ
  finish : τ
  limit : τ
  count : Nat
  bytes : Bytes

def Read.events (name : String) (r : Read τ) : List (Event τ) :=
  [.setTimeout name (some r.limit), .receive name r.count]

/-- Reads made of a connection one after the other. A read that fails is the last one. -/
inductive Reads [Time τ] :
    Peer τ → Surroundings τ → List (Read τ) → Peer τ → Surroundings τ → Prop
  | none {p : Peer τ} {s : Surroundings τ} : Reads p s [] p s
  | read {p q r : Peer τ} {s t u : Surroundings τ} {limit : τ} {n : Nat} {bs : Bytes}
    {rs : List (Read τ)} (returns : exec (p.readWithin limit n) s = (.ok (bs, q), t))
    (next : Reads q t rs r u) : Reads p s (⟨s.clock, t.clock, limit, n, bs⟩ :: rs) r u
  | failed {p : Peer τ} {s t : Surroundings τ} {limit : τ} {n : Nat} {f : Failure}
    (fails : exec (p.readWithin limit n) s = (.error f, t)) :
    Reads p s [⟨s.clock, t.clock, limit, n, []⟩] p t

section

variable [Time τ] {p q : Peer τ} {s t : Surroundings τ} {n : Nat} {limit : τ}

theorem Peer.Reading.events {r : Except Failure (Bytes × Peer τ) × Surroundings τ}
    (h : p.Reading limit n s r) :
    r.2.events = s.events ++ [.setTimeout p.name (some limit), .receive p.name n] := by
  cases h <;> simp [Change.apply, Peer.asked]

theorem Peer.Reading.name {bs : Bytes} (h : p.Reading limit n s (.ok (bs, q), t)) :
    q.name = p.name := by
  cases h <;> rfl

theorem Reads.name {rs : List (Read τ)} (h : Reads p s rs q t) : q.name = p.name := by
  induction h with
  | none => rfl
  | read returns _ ih => exact ih.trans (Peer.Reading.of_exec returns).name
  | failed => rfl

theorem Reads.events {rs : List (Read τ)} (h : Reads p s rs q t) :
    t.events = s.events ++ rs.flatMap (Read.events p.name) := by
  induction h with
  | none => simp
  | read returns _ ih =>
    have hread := Peer.Reading.of_exec returns
    rw [ih, hread.name, hread.events, List.flatMap_cons, List.append_assoc]
    rfl
  | failed fails => simpa [Read.events] using (Peer.Reading.of_exec fails).events

end

/-- Sends these bytes in chunks and then ends its stream, at once or after a while. -/
inductive Streams [Time τ] : List (PeerStep τ) → Bytes → Prop
  | empty : Streams [] []
  | ended {step : PeerStep τ} (forward : 0 ≤ step.delay) (act : step.act = .send []) :
    Streams [step] []
  | chunk {step : PeerStep τ} {rest : List (PeerStep τ)} {bs more : Bytes}
    (forward : 0 ≤ step.delay) (act : step.act = .send bs) (nonempty : bs ≠ [])
    (next : Streams rest more) : Streams (step :: rest) (bs ++ more)

/-- How long the reads take that bring the missing bytes or come to the end of the stream. -/
def readingSpan [Time τ] (missing : Nat) : List (PeerStep τ) → τ
  | [] => 0
  | step :: rest =>
    if missing = 0 then 0
    else match step.act with
      | .send bs => step.delay + readingSpan (missing - bs.length) rest
      | .fail _ => step.delay

section

variable [ExactTime τ]

theorem readingSpan_zero (steps : List (PeerStep τ)) : readingSpan 0 steps = 0 := by
  cases steps <;> rfl

theorem readingSpan_stepsAfter (missing : Nat) (bs : Bytes) (rest : List (PeerStep τ)) :
    readingSpan (missing - (bs.take missing).length) (Peer.stepsAfter missing bs rest) =
      readingSpan (missing - bs.length) rest := by
  by_cases hlt : missing < bs.length
  · rw [show missing - bs.length = 0 by omega,
      show missing - (bs.take missing).length = 0 by simp; omega, readingSpan_zero,
      readingSpan_zero]
  · rw [List.take_of_length_le (not_lt.mp hlt), Peer.stepsAfter, if_neg hlt]

namespace Streams

variable {steps rest : List (PeerStep τ)} {bs : Bytes}

theorem readingSpan_nonneg (h : Streams steps bs) (missing : Nat) :
    0 ≤ readingSpan missing steps := by
  induction h generalizing missing with
  | empty => exact le_rfl
  | ended forward act =>
    rw [readingSpan, act]
    split
    · exact le_rfl
    · simpa [readingSpan] using forward
  | chunk forward act _ _ ih =>
    rw [readingSpan, act]
    split
    · exact le_rfl
    · exact add_nonneg forward (ih _)

theorem stepsAfter (h : Streams rest bs) (n : Nat) (sent : Bytes) :
    Streams (Peer.stepsAfter n sent rest) (sent.drop n ++ bs) := by
  rw [Peer.stepsAfter]
  split
  · rename_i hlt
    exact .chunk le_rfl rfl (by simpa using hlt) h
  · rename_i hle
    rwa [List.drop_of_length_le (not_lt.mp hle), List.nil_append]

theorem first {step : PeerStep τ} (h : Streams (step :: rest) bs) :
    0 ≤ step.delay ∧ ∃ sent more, step.act = .send sent ∧ bs = sent ++ more ∧ Streams rest more ∧
      (sent = [] → bs = []) := by
  cases h with
  | ended forward act => exact ⟨forward, [], [], act, rfl, .empty, fun _ => rfl⟩
  | chunk forward act hne next => exact ⟨forward, _, _, act, rfl, next, fun h => absurd h hne⟩

end Streams

structure TakesOff (p q : Peer τ) (bs : Bytes) (n : Nat) (s t : Surroundings τ)
    (chunk left : Bytes) : Prop where
  split : bs = chunk ++ left
  length : chunk.length ≤ n
  /-- Nothing is returned at the end only. -/
  ended : chunk = [] → bs = []
  streams : Streams q.steps left
  /-- The time that has passed is no longer to come. -/
  clock : t.clock + readingSpan (n - chunk.length) q.steps = s.clock + readingSpan n p.steps

/-- A read with enough time takes some bytes off the front of the stream. -/
theorem exec_readWithin_streams {p : Peer τ} {bs : Bytes} (h : Streams p.steps bs) {n : Nat}
    (hn : n ≠ 0) {limit : τ} (hlimit : readingSpan n p.steps ≤ limit) (s : Surroundings τ) :
    ∃ chunk left q t, exec (p.readWithin limit n) s = (.ok (chunk, q), t) ∧
      TakesOff p q bs n s t chunk left := by
  have hread := p.reading limit n s
  generalize exec (p.readWithin limit n) s = result at hread
  cases hread with
  | atEnd hsteps =>
    rw [hsteps] at h
    cases h
    exact ⟨[], [], _, _, rfl, ⟨rfl, Nat.zero_le n, fun _ => rfl, hsteps ▸ .empty, by
      simp [hsteps, readingSpan, Change.apply, Peer.asked]⟩⟩
  | @missed step rest hsteps late =>
    rw [hsteps] at h hlimit
    obtain ⟨-, sent, more, act, -, hmore, -⟩ := h.first
    have hlater : step.late = false ∧ limit < step.delay := by
      simpa [PeerStep.isMissed, outlasts] using late
    rw [readingSpan, if_neg hn, act] at hlimit
    exact absurd ((le_add_of_nonneg_right (hmore.readingSpan_nonneg _)).trans hlimit)
      (not_le.mpr hlater.2)
  | fails hsteps inTime act =>
    rw [hsteps] at h
    obtain ⟨-, sent, more, act', -⟩ := h.first
    rw [act] at act'
    cases act'
  | @sends step rest sent hsteps inTime act =>
    rw [hsteps] at h
    obtain ⟨-, sent', more, act', rfl, hmore, hended⟩ := h.first
    obtain rfl : sent = sent' := by simpa using act.symm.trans act'
    refine ⟨sent.take n, sent.drop n ++ more, _, _, rfl, ?_⟩
    exact {
      split := by rw [← List.append_assoc, List.take_append_drop]
      length := List.length_take_le n sent
      ended := fun hnil => hended (by simpa [hn] using hnil)
      streams := hmore.stepsAfter n sent
      clock := by
        rw [readingSpan_stepsAfter, hsteps, readingSpan, if_neg hn, act]
        exact add_assoc s.clock step.delay _ }

/-- Reads that take so many bytes off a stream, or all there are. -/
structure TakesAll (p : Peer τ) (bs : Bytes) (n : Nat) (s : Surroundings τ) (rs : List (Read τ))
    (q : Peer τ) (t : Surroundings τ) : Prop where
  reads : Reads p s rs q t
  taken : rs.flatMap (·.bytes) = bs.take n
  left : Streams q.steps (bs.drop n)
  asked : ∀ r ∈ rs, 1 ≤ r.count ∧ r.count ≤ n
  limited : ∀ r ∈ rs, 0 < r.limit

namespace TakesAll

variable {p q q' : Peer τ} {bs chunk left : Bytes} {n : Nat} {limit : τ} {s t u : Surroundings τ}
  {rs : List (Read τ)}

theorem nothing (h : Streams p.steps bs) (s : Surroundings τ) : TakesAll p bs 0 s [] p s where
  reads := .none
  taken := rfl
  left := h
  asked := by simp
  limited := by simp

theorem ended (hexec : exec (p.readWithin limit n) s = (.ok ([], q), t)) (hn : n ≠ 0)
    (hlimit : 0 < limit) (hq : Streams q.steps []) :
    TakesAll p [] n s [⟨s.clock, t.clock, limit, n, []⟩] q t where
  reads := .read hexec .none
  taken := by simp
  left := by simpa using hq
  asked := by simpa using Nat.one_le_iff_ne_zero.mpr hn
  limited := by simpa using hlimit

theorem read (hexec : exec (p.readWithin limit n) s = (.ok (chunk, q), t)) (hn : n ≠ 0)
    (hlimit : 0 < limit) (hlength : chunk.length ≤ n)
    (h : TakesAll q left (n - chunk.length) t rs q' u) :
    TakesAll p (chunk ++ left) n s (⟨s.clock, t.clock, limit, n, chunk⟩ :: rs) q' u where
  reads := .read hexec h.reads
  taken := by
    rw [List.flatMap_cons, h.taken, List.take_append, List.take_of_length_le hlength]
  left := by
    rw [List.drop_append, List.drop_of_length_le hlength, List.nil_append]
    exact h.left
  asked r hr := by
    obtain rfl | hr := List.mem_cons.mp hr
    · exact ⟨Nat.one_le_iff_ne_zero.mpr hn, le_rfl⟩
    · have := h.asked r hr
      omega
  limited r hr := by
    obtain rfl | hr := List.mem_cons.mp hr
    · exact hlimit
    · exact h.limited r hr

end TakesAll

namespace Gate

theorem exec_readNonce_read {deadline : τ} {p : Peer τ} {missing : Nat} {received : Bytes}
    {s : Surroundings τ} (hm : missing ≠ 0) (hlt : s.clock < deadline) :
    exec (readNonce deadline p missing received) s =
      match exec (p.readWithin (deadline - s.clock) missing) s with
      | (.ok (chunk, q), t) => if chunk = [] then (.ok none, t)
          else exec (readNonce deadline q (missing - chunk.length) (received ++ chunk)) t
      | (.error f, t) => (.error f, t) :=
  exec_readNonce_of_lt hm hlt

/-- With enough time, reading the missing bytes takes them off the stream and no others. -/
theorem readNonce_streams {deadline : τ} {p : Peer τ} {bs : Bytes} (h : Streams p.steps bs)
    (missing : Nat) (received : Bytes) {s : Surroundings τ}
    (htime : s.clock + readingSpan missing p.steps < deadline) :
    ∃ rs q t, TakesAll p bs missing s rs q t ∧ exec (readNonce deadline p missing received) s =
      (.ok (if missing ≤ bs.length then some (received ++ bs.take missing, q) else none), t) := by
  -- What is missing gets less with every chunk, and the deadline stays while time passes.
  induction missing using Nat.strongRecOn generalizing p bs received s with
  | ind missing ih =>
    by_cases hm : missing = 0
    · subst hm
      refine ⟨[], p, s, .nothing h s, ?_⟩
      rw [exec_readNonce_zero]
      simp
    have hlt : s.clock < deadline :=
      (le_add_of_nonneg_right (h.readingSpan_nonneg _)).trans_lt htime
    have hlimit : 0 < deadline - s.clock := sub_pos.mpr hlt
    obtain ⟨chunk, left, q, t, hexec, rfl, hlength, hended, hleft, hclock⟩ :=
      exec_readWithin_streams h hm (le_sub_iff_add_le'.mpr htime.le) s
    rw [exec_readNonce_read hm hlt, hexec]
    dsimp only
    by_cases hchunk : chunk = []
    · subst hchunk
      obtain rfl : left = [] := hended rfl
      exact ⟨_, q, t, .ended hexec hm hlimit hleft, by simp [hm]⟩
    · obtain ⟨rs, q', u, htakes, hrest⟩ :=
        ih _ (missing_lt hm hchunk) hleft (received ++ chunk) (hclock ▸ htime)
      refine ⟨_, q', u, .read hexec hm hlimit hlength htakes, ?_⟩
      rw [if_neg hchunk, hrest, List.take_append, List.take_of_length_le hlength, List.append_assoc,
        List.length_append]
      simp only [Nat.sub_le_iff_le_add']

/-- What the check of a connection comes to whose peer sends these bytes in time. -/
structure TakesNonce (g : Gate τ) (p : Peer τ) (bs : Bytes) (s t : Surroundings τ)
    (answer : Option (Peer τ)) (rs : List (Read τ)) (q : Peer τ) : Prop where
  admitted : answer.isSome ↔ g.nonce.size ≤ bs.length ∧ bs.take g.nonce.size = g.nonce.bytes
  /-- What is handed on is the connection that the reads leave, without a limit. -/
  handed : ∀ q' ∈ answer, q' = { q with timeout := none }
  takes : ∃ u, TakesAll p bs g.nonce.size s rs q u ∧
    t = if g.nonce.size ≤ bs.length then (Change.event (.setTimeout p.name none)).apply u else u
  events : t.events = s.events ++ (rs.flatMap (Read.events p.name) ++
    if g.nonce.size ≤ bs.length then [.setTimeout p.name none] else [])

theorem exec_authenticate_of_readNonce (g : Gate τ) (hn : g.nonce.IsAscii) {p : Peer τ}
    {timeout : τ} {s u : Surroundings τ} {o : Option (Bytes × Peer τ)}
    (hread : exec (readNonce (s.clock + timeout) p g.nonce.size []) s = (.ok o, u)) :
    exec (g.authenticate p timeout) s = match o with
      | none => (.ok none, u)
      | some (received, q) =>
        (.ok (if received = g.nonce.bytes then some { q with timeout := none } else none),
          (Change.event (.setTimeout q.name none)).apply u) := by
  simp only [authenticate, exec_bind, exec_now, exec_tryCatch, hread]
  rcases o with _ | ⟨received, q⟩
  · rfl
  · simp only [exec_bind, Peer.exec_setTimeout, exec_pure, hn.admits, exec_lift]
    by_cases h : received = g.nonce.bytes
    · simp [h]
    · simp [h, Ne.symm h]

/-- A connection that sends its bytes in time is admitted exactly if the nonce comes first. The
check takes as many bytes as the nonce has, or all there are if there are fewer, in reads of which
each has a limit and asks for no more than is missing; the limit is taken away at the end. The
answer and the bytes that are left do not depend on how the bytes are cut. -/
theorem authenticate_streams (g : Gate τ) (hn : g.nonce.IsAscii) {p : Peer τ} {bs : Bytes}
    (h : Streams p.steps bs) {timeout : τ} (htime : readingSpan g.nonce.size p.steps < timeout)
    (s : Surroundings τ) :
    ∃ answer rs q t, exec (g.authenticate p timeout) s = (.ok answer, t) ∧
      g.TakesNonce p bs s t answer rs q := by
  have htime : s.clock + readingSpan g.nonce.size p.steps < s.clock + timeout := by
    simpa using htime
  obtain ⟨rs, q, u, htakes, hread⟩ := readNonce_streams h g.nonce.size [] htime
  have hevents := htakes.reads.events
  rw [List.nil_append] at hread
  by_cases hlength : g.nonce.size ≤ bs.length
  · rw [if_pos hlength] at hread
    refine ⟨_, rs, q, _, g.exec_authenticate_of_readNonce hn hread, ?_⟩
    exact {
      admitted := by split <;> simp [*]
      handed := by split <;> simp [*]
      takes := ⟨u, htakes, by rw [if_pos hlength, htakes.reads.name]⟩
      events := by simp [Change.apply, hevents, htakes.reads.name, hlength] }
  · rw [if_neg hlength] at hread
    refine ⟨none, rs, q, u, g.exec_authenticate_of_readNonce hn hread, ?_⟩
    exact {
      admitted := by simp [hlength]
      handed := by simp
      takes := ⟨u, htakes, by rw [if_neg hlength]⟩
      events := by simp [hevents, hlength] }

/-- A connection whose peer sends the nonce in two parts, with more in the chunk of the second and
again after a minute. -/
def talkative : Peer ℚ where
  name := "talkative"
  steps := [⟨1, .send [97], false⟩, ⟨2, .send [98, 99], false⟩, ⟨60, .send [100], false⟩]

theorem authenticate_streams_talkative :
    patient.nonce.IsAscii ∧ Streams talkative.steps [97, 98, 99, 100] ∧
      readingSpan patient.nonce.size talkative.steps < 10 ∧
      ∃ q rs r t, exec (patient.authenticate talkative 10) { clock := 0 } = (.ok (some q), t) ∧
        Streams r.steps [99, 100] ∧
        patient.TakesNonce talkative [97, 98, 99, 100] { clock := 0 } t (some q) rs r := by
  have hn : patient.nonce.IsAscii := by
    simp [patient, Nonce.IsAscii]
  have hstreams : Streams talkative.steps ([97] ++ ([98, 99] ++ ([100] ++ []))) :=
    .chunk (by decide) rfl (by simp)
      (.chunk (by decide) rfl (by simp) (.chunk (by decide) rfl (by simp) .empty))
  have htime : readingSpan patient.nonce.size talkative.steps < 10 := by decide +kernel
  obtain ⟨answer, rs, r, t, hexec, htakes⟩ :=
    patient.authenticate_streams hn hstreams htime { clock := 0 }
  have hadmitted : answer.isSome := htakes.admitted.mpr ⟨by decide +kernel, by decide +kernel⟩
  obtain ⟨q, rfl⟩ := Option.isSome_iff_exists.mp hadmitted
  obtain ⟨u, hall, -⟩ := id htakes.takes
  exact ⟨hn, hstreams, htime, q, rs, r, t, hexec, hall.left, htakes⟩

end Gate

end

end Tether
