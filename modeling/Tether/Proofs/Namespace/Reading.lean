import Tether.Proofs.Time
import Tether.Namespace.Gate
import Tether.Proofs.Act.Change

/-! # Reading a nonce

On an exact scale of time, a connection passes the check of the gate if and only
if every read made of it is made before the deadline and the bytes that come
first are those of the nonce.
-/

namespace Tether

variable {τ : Type}

open Act

namespace Nonce

def IsAscii (n : Nonce) : Prop := ∀ c ∈ n.value.toList, c.toNat < 128

def bytes (n : Nonce) : Bytes := Bytes.ofAscii n.value

theorem length_bytes (n : Nonce) : n.bytes.length = n.size := by
  simp [bytes, Bytes.ofAscii, size, String.length_toList]

theorem IsAscii.admits {n : Nonce} (h : n.IsAscii) (candidate : Bytes) :
    n.admits candidate = .ok (n.bytes == candidate) := by
  have hall : (n.value.toList.all fun c => c.toNat < 128) = true := by
    simpa [List.all_eq_true, IsAscii] using h
  simp only [Nonce.admits, encode, hall, if_true]
  rfl

end Nonce

namespace Peer

def FailsBySystem (p : Peer τ) : Prop :=
  ∀ step ∈ p.steps, ∀ f, step.act = .fail f → f.isSystem

def stepsAfter [Zero τ] (n : Nat) (bs : Bytes) (rest : List (PeerStep τ)) : List (PeerStep τ) :=
  if n < bs.length then { delay := 0, act := .send (bs.drop n) } :: rest else rest

theorem FailsBySystem.after [Zero τ] {p q : Peer τ} (hp : p.FailsBySystem)
    {step : PeerStep τ} {rest : List (PeerStep τ)} {n : Nat} {bs : Bytes}
    (h : p.steps = step :: rest) (hq : q.steps = stepsAfter n bs rest) : q.FailsBySystem := by
  have hrest : ∀ u ∈ rest, ∀ f, u.act = .fail f → f.isSystem :=
    fun u hu => hp u (h ▸ List.mem_cons_of_mem _ hu)
  simp only [FailsBySystem, hq, stepsAfter]
  split
  · rintro u hu f hf
    rcases List.mem_cons.mp hu with rfl | hu
    · simp at hf
    · exact hrest u hu f hf
  · exact hrest

theorem exec_setTimeout (p : Peer τ) (span : Option τ) (s : Surroundings τ) :
    exec (p.setTimeout span) s =
      (.ok { p with timeout := span }, (Change.event (.setTimeout p.name span)).apply s) := rfl

theorem name_of_setTimeout {p q : Peer τ} {span : Option τ} {s t : Surroundings τ}
    (h : exec (p.setTimeout span) s = (.ok q, t)) : q.name = p.name := by
  rw [exec_setTimeout] at h
  cases h
  rfl

section

variable [Time τ] {p : Peer τ} {step : PeerStep τ} {rest : List (PeerStep τ)} {n : Nat}
  {s : Surroundings τ}

def received (p : Peer τ) (n : Nat) (span : τ) (s : Surroundings τ) : Surroundings τ :=
  (Change.clock (· + span)).apply ((Change.event (.receive p.name n)).apply s)

theorem exec_receive_nil (h : p.steps = []) :
    exec (p.receive n) s = (.ok ([], p), (Change.event (.receive p.name n)).apply s) := by
  simp only [receive, exec_bind, exec_emit, h]
  rfl

theorem exec_receive_missed (h : p.steps = step :: rest) (hm : step.isMissed p.timeout = true) :
    exec (p.receive n) s =
      (.error (.outside .timeout "timed out"), p.received n (p.timeout.getD 0) s) := by
  simp only [receive, exec_bind, exec_emit, h, hm]
  rfl

theorem exec_receive_fail {f : Failure} (h : p.steps = step :: rest)
    (hm : step.isMissed p.timeout = false) (ha : step.act = .fail f) :
    exec (p.receive n) s = (.error f, p.received n step.delay s) := by
  simp only [receive, exec_bind, exec_emit, h, hm, ha]
  rfl

theorem exec_receive_send {bs : Bytes} (h : p.steps = step :: rest)
    (hm : step.isMissed p.timeout = false) (ha : step.act = .send bs) :
    exec (p.receive n) s = (.ok (bs.take n, { p with steps := stepsAfter n bs rest }),
      p.received n step.delay s) := by
  simp only [receive, exec_bind, exec_emit, h, hm, ha, stepsAfter]
  by_cases hn : n < bs.length
  · simp only [hn, if_true]
    rfl
  · simp only [hn, if_false, List.take_of_length_le (not_lt.mp hn)]
    rfl

theorem name_of_receive {r : Bytes × Peer τ} {t : Surroundings τ}
    (h : exec (p.receive n) s = (.ok r, t)) : r.2.name = p.name := by
  cases hsteps : p.steps with
  | nil =>
    rw [exec_receive_nil hsteps] at h
    cases h
    rfl
  | cons step rest =>
    cases hmissed : step.isMissed p.timeout with
    | true =>
      rw [exec_receive_missed hsteps hmissed] at h
      cases h
    | false =>
      cases hact : step.act with
      | fail f =>
        rw [exec_receive_fail hsteps hmissed hact] at h
        cases h
      | send bs =>
        rw [exec_receive_send hsteps hmissed hact] at h
        cases h
        rfl

end

end Peer

section

variable [ExactTime τ]

/-- A read that is made at a time, before the deadline, returns these bytes. -/
structure PeerStep.Gives (step : PeerStep τ) (deadline t : τ) (bs : Bytes) : Prop where
  asked : t < deadline
  inTime : step.late = true ∨ t + step.delay ≤ deadline
  sent : step.act = .send bs

/-- Reading from a time on brings some bytes, each read being made before the deadline and
returning at least one of them. -/
inductive Brings (deadline : τ) : τ → Bytes → List (PeerStep τ) → Prop
  | all {t : τ} {steps : List (PeerStep τ)} : Brings deadline t [] steps
  | part {t : τ} {step : PeerStep τ} {rest : List (PeerStep τ)} {bs more : Bytes}
      (gives : step.Gives deadline t bs) (nonempty : bs ≠ [])
      (next : Brings deadline (t + step.delay) more rest) :
      Brings deadline t (bs ++ more) (step :: rest)
  | enough {t : τ} {step : PeerStep τ} {rest : List (PeerStep τ)} {bs extra : Bytes}
      (gives : step.Gives deadline t (bs ++ extra)) (nonempty : bs ≠ []) :
      Brings deadline t bs (step :: rest)

theorem Brings.asked {deadline t : τ} {bs : Bytes} {steps : List (PeerStep τ)}
    (h : Brings deadline t bs steps) (hbs : bs ≠ []) :
    ∃ step rest, steps = step :: rest ∧ ∃ sent, step.Gives deadline t sent ∧ sent ≠ [] := by
  cases h with
  | all => exact absurd rfl hbs
  | part hg hne _ => exact ⟨_, _, rfl, _, hg, hne⟩
  | enough hg hne => exact ⟨_, _, rfl, _, hg, by simp [hne]⟩

theorem brings_cons_iff {deadline t : τ} {step : PeerStep τ} {rest : List (PeerStep τ)}
    {sent bs : Bytes} (hg : step.Gives deadline t sent) (hs : sent ≠ []) (hbs : bs ≠ []) :
    Brings deadline t bs (step :: rest) ↔
      bs <+: sent ∨ ∃ more, bs = sent ++ more ∧ Brings deadline (t + step.delay) more rest := by
  constructor
  · intro h
    cases h with
    | all => exact absurd rfl hbs
    | part hg' _ hnext =>
      obtain rfl : sent = _ := by simpa using hg.sent.symm.trans hg'.sent
      exact .inr ⟨_, rfl, hnext⟩
    | enough hg' _ =>
      obtain rfl : sent = _ := by simpa using hg.sent.symm.trans hg'.sent
      exact .inl (List.prefix_append _ _)
  · rintro (⟨extra, rfl⟩ | ⟨more, rfl, hnext⟩)
    · exact .enough hg hbs
    · exact .part hg hs hnext

theorem Brings.unique {deadline t : τ} {bs bs' : Bytes} {steps : List (PeerStep τ)}
    (h : Brings deadline t bs steps) (h' : Brings deadline t bs' steps)
    (hlen : bs.length = bs'.length) : bs = bs' := by
  induction h generalizing bs' with
  | all => exact (List.eq_nil_of_length_eq_zero hlen.symm).symm
  | @part t step rest bs more hg hne hnext ih =>
    have hbs' : bs' ≠ [] := by
      rintro rfl
      simp [hne] at hlen
    rw [List.length_append] at hlen
    obtain hpre | ⟨more', rfl, hnext'⟩ := (brings_cons_iff hg hne hbs').mp h'
    · have hle := hpre.length_le
      obtain rfl : bs' = bs := hpre.eq_of_length (by omega)
      rw [List.eq_nil_of_length_eq_zero (by omega : more.length = 0), List.append_nil]
    · rw [ih hnext' (by simpa using hlen)]
  | @enough t step rest bs extra hg hne =>
    have hbs' : bs' ≠ [] := by
      rintro rfl
      exact hne (List.eq_nil_of_length_eq_zero hlen)
    obtain hpre | ⟨more', rfl, _⟩ := (brings_cons_iff hg (by simp [hne]) hbs').mp h'
    · exact List.prefix_of_prefix_length_le (List.prefix_append _ _) hpre hlen.le
        |>.eq_of_length hlen
    · simp only [List.length_append] at hlen
      rw [List.eq_nil_of_length_eq_zero (by omega : extra.length = 0),
        List.eq_nil_of_length_eq_zero (by omega : more'.length = 0)]
      simp

/-- A step is missed by a read with the time up to the deadline left if it comes later. -/
theorem PeerStep.isMissed_iff (step : PeerStep τ) (deadline t : τ) :
    step.isMissed (some (deadline - t)) = true ↔
      ¬ (step.late = true ∨ t + step.delay ≤ deadline) := by
  simp [PeerStep.isMissed, outlasts, not_or, sub_lt_iff_lt_add']

instance Brings.decidable (deadline : τ) : (t : τ) → (bs : Bytes) → (steps : List (PeerStep τ)) →
    Decidable (Brings deadline t bs steps)
  | _, [], _ => .isTrue .all
  | _, b :: bs, [] => .isFalse fun h => by
    obtain ⟨_, _, hcons, _⟩ := h.asked (List.cons_ne_nil b bs)
    cases hcons
  | t, b :: bs, step :: rest =>
    match ha : step.act with
    | .fail _ => .isFalse fun h => by
      obtain ⟨_, _, hcons, _, hg, _⟩ := h.asked (List.cons_ne_nil b bs)
      obtain ⟨rfl, rfl⟩ := List.cons.inj hcons
      exact absurd (ha.symm.trans hg.sent) (by simp)
    | .send sent =>
      if h : (t < deadline ∧ (step.late = true ∨ t + step.delay ≤ deadline)) ∧ sent ≠ [] then
        have hstep := brings_cons_iff ⟨h.1.1, h.1.2, ha⟩ h.2 (List.cons_ne_nil b bs)
        have := Brings.decidable deadline (t + step.delay) ((b :: bs).drop sent.length) rest
        decidable_of_iff ((b :: bs) <+: sent ∨ sent <+: (b :: bs) ∧
          Brings deadline (t + step.delay) ((b :: bs).drop sent.length) rest) <| by
          rw [hstep]
          refine or_congr_right ⟨?_, ?_⟩
          · rintro ⟨hpre, hnext⟩
            exact ⟨_, (List.prefix_iff_eq_append.mp hpre).symm, hnext⟩
          · rintro ⟨more, hmore, hnext⟩
            rw [hmore, List.drop_left]
            exact ⟨List.prefix_append _ _, hnext⟩
      else .isFalse fun hb => by
        obtain ⟨_, _, hcons, sent', hg, hsent⟩ := hb.asked (List.cons_ne_nil b bs)
        obtain ⟨rfl, rfl⟩ := List.cons.inj hcons
        obtain rfl : sent = sent' := by simpa using ha.symm.trans hg.sent
        exact h ⟨⟨hg.asked, hg.inTime⟩, hsent⟩

namespace Gate

/-- What becomes of reading the `missing` bytes of a nonce from a time on. -/
inductive ReadOutcome (deadline t : τ) (name : String) (steps : List (PeerStep τ))
    (missing : Nat) (received : Bytes) : Except Failure (Option (Bytes × Peer τ)) → Prop
  | whole {got : Bytes} {q : Peer τ} (length : got.length = missing)
      (brings : Brings deadline t got steps) (same : q.name = name) :
      ReadOutcome deadline t name steps missing received (.ok (some (received ++ got, q)))
  | short (h : ∀ got, got.length = missing → ¬ Brings deadline t got steps) :
      ReadOutcome deadline t name steps missing received (.ok none)
  | failed {f : Failure} (h : ∀ got, got.length = missing → ¬ Brings deadline t got steps)
      (system : f.isSystem) : ReadOutcome deadline t name steps missing received (.error f)

theorem ReadOutcome.after {deadline t : τ} {name : String} {missing : Nat}
    {received bs : Bytes} {step : PeerStep τ} {rest : List (PeerStep τ)}
    (hg : step.Gives deadline t bs) (hbs : bs ≠ []) (hm : missing ≠ 0)
    {r : Except Failure (Option (Bytes × Peer τ))}
    (h : ReadOutcome deadline (t + step.delay) name (Peer.stepsAfter missing bs rest)
      (missing - (bs.take missing).length) (received ++ bs.take missing) r) :
    ReadOutcome deadline t name (step :: rest) missing received r := by
  have hne {got : Bytes} (hgot : got.length = missing) : got ≠ [] := by
    rintro rfl
    exact hm hgot.symm
  have hbrings (more : Bytes) (hmore : more.length = missing - (bs.take missing).length)
      (hnext : Brings deadline (t + step.delay) more (Peer.stepsAfter missing bs rest)) :
      Brings deadline t (bs.take missing ++ more) (step :: rest) := by
    by_cases hlt : missing < bs.length
    · obtain rfl : more = [] := List.eq_nil_of_length_eq_zero (by simp at hmore; omega)
      rw [List.append_nil]
      have hsent : step.Gives deadline t (bs.take missing ++ bs.drop missing) := by
        rwa [List.take_append_drop]
      exact .enough hsent (hne (by simp; omega))
    · rw [List.take_of_length_le (not_lt.mp hlt)]
      simp only [Peer.stepsAfter, hlt, if_false] at hnext
      exact .part hg hbs hnext
  have hnone (hno : ∀ more : Bytes, more.length = missing - (bs.take missing).length →
      ¬ Brings deadline (t + step.delay) more (Peer.stepsAfter missing bs rest)) (got : Bytes)
      (hgot : got.length = missing) : ¬ Brings deadline t got (step :: rest) := by
    rw [brings_cons_iff hg hbs (hne hgot)]
    rintro (hpre | ⟨more, rfl, hnext⟩)
    · have hlen := hpre.length_le
      exact hno [] (by simp; omega) .all
    · rw [List.length_append] at hgot
      have hlt : ¬ missing < bs.length := by omega
      refine hno more (by simp; omega) ?_
      simpa only [Peer.stepsAfter, hlt, if_false] using hnext
  cases h with
  | @whole more q hlength hnext hname =>
    rw [List.append_assoc]
    refine .whole ?_ (hbrings _ hlength hnext) hname
    simp only [List.length_append, List.length_take] at hlength ⊢
    omega
  | short hno => exact .short (hnone hno)
  | failed hno hf => exact .failed (hnone hno) hf

theorem exec_readNonce_zero (deadline : τ) (p : Peer τ) (received : Bytes) (s : Surroundings τ) :
    exec (readNonce deadline p 0 received) s = (.ok (some (received, p)), s) := by
  rw [readNonce, dif_pos rfl, exec_pure]

theorem exec_readNonce_of_le {deadline : τ} {p : Peer τ} {missing : Nat} {received : Bytes}
    {s : Surroundings τ} (hm : missing ≠ 0) (hle : deadline ≤ s.clock) :
    exec (readNonce deadline p missing received) s = (.ok none, s) := by
  rw [readNonce, dif_neg hm]
  simp only [exec_bind, exec_now, if_pos (sub_nonpos.mpr hle), exec_pure]

theorem exec_readNonce_of_lt {deadline : τ} {p : Peer τ} {missing : Nat} {received : Bytes}
    {s : Surroundings τ} (hm : missing ≠ 0) (hlt : s.clock < deadline) :
    exec (readNonce deadline p missing received) s =
      match exec (Peer.receive { p with timeout := some (deadline - s.clock) } missing)
        ((Change.event (.setTimeout p.name (some (deadline - s.clock)))).apply s) with
      | (.ok (chunk, q), t) => if chunk = [] then (.ok none, t)
          else exec (readNonce deadline q (missing - chunk.length) (received ++ chunk)) t
      | (.error f, t) => (.error f, t) := by
  rw [readNonce, dif_neg hm]
  simp only [exec_bind, exec_now, if_neg (not_le.mpr (sub_pos.mpr hlt)), Peer.exec_setTimeout]
  rcases exec _ _ with ⟨f | ⟨chunk, q⟩, t⟩
  · rfl
  · by_cases hc : chunk = []
    · simp only [hc, dif_pos, if_pos, exec_pure]
    · simp only [hc, dif_neg, if_neg, not_false_eq_true]

omit [ExactTime τ] in
theorem missing_lt {missing : Nat} (hm : missing ≠ 0) {chunk : Bytes} (hchunk : chunk ≠ []) :
    missing - chunk.length < missing := by
  have := List.length_pos_iff.mpr hchunk
  omega

theorem readNonce_outcome (deadline : τ) (p : Peer τ) (missing : Nat) (received : Bytes)
    (s : Surroundings τ) (hp : p.FailsBySystem) :
    ReadOutcome deadline s.clock p.name p.steps missing received
      (exec (readNonce deadline p missing received) s).1 := by
  induction missing using Nat.strongRecOn generalizing p received s with
  | ind missing ih =>
    by_cases hm : missing = 0
    · subst hm
      rw [exec_readNonce_zero]
      have hwhole : ReadOutcome deadline s.clock p.name p.steps 0 received
          (.ok (some (received ++ [], p))) := .whole rfl .all rfl
      rwa [List.append_nil] at hwhole
    have hne {got : Bytes} (hgot : got.length = missing) : got ≠ [] := by
      rintro rfl
      exact hm hgot.symm
    by_cases hlt : s.clock < deadline
    · rw [exec_readNonce_of_lt hm hlt]
      obtain ⟨name, _ | ⟨step, rest⟩, timeout⟩ := p
      · rw [Peer.exec_receive_nil rfl]
        refine .short fun got hgot hb => ?_
        obtain ⟨_, _, hcons, _⟩ := hb.asked (hne hgot)
        simp at hcons
      · have hmissed := step.isMissed_iff deadline s.clock
        rcases hm' : step.isMissed (some (deadline - s.clock)) with _ | _
        · have hin : step.late = true ∨ s.clock + step.delay ≤ deadline := by
            by_contra hin
            exact absurd (hmissed.mpr hin) (by simp [hm'])
          rcases ha : step.act with bs | f
          · have hg : step.Gives deadline s.clock bs := ⟨hlt, hin, ha⟩
            rw [Peer.exec_receive_send rfl hm' ha]
            dsimp only
            split
            · rename_i hnil
              refine .short fun got hgot hb => ?_
              obtain ⟨_, _, hcons, sent, hg', hsent⟩ := hb.asked (hne hgot)
              obtain ⟨rfl, rfl⟩ := List.cons.inj hcons
              obtain rfl : bs = sent := by simpa using ha.symm.trans hg'.sent
              simp [hm, hsent] at hnil
            · rename_i hnil
              have hbs : bs ≠ [] := by
                rintro rfl
                simp at hnil
              refine .after hg hbs hm ?_
              have hnext := ih _ (missing_lt hm hnil) ⟨name, Peer.stepsAfter missing bs rest,
                some (deadline - s.clock)⟩ (received ++ bs.take missing)
              exact hnext (Peer.received ⟨name, step :: rest, some (deadline - s.clock)⟩ missing
                step.delay ((Change.event (.setTimeout name _)).apply s)) (hp.after rfl rfl)
          · rw [Peer.exec_receive_fail rfl hm' ha]
            refine .failed (fun got hgot hb => ?_) (hp step List.mem_cons_self f ha)
            obtain ⟨_, _, hcons, _, hg, _⟩ := hb.asked (hne hgot)
            obtain ⟨rfl, rfl⟩ := List.cons.inj hcons
            exact absurd (ha.symm.trans hg.sent) (by simp)
        · rw [Peer.exec_receive_missed rfl hm']
          refine .failed (fun got hgot hb => ?_) rfl
          obtain ⟨_, _, hcons, _, hg, _⟩ := hb.asked (hne hgot)
          obtain ⟨rfl, rfl⟩ := List.cons.inj hcons
          exact absurd hg.inTime (hmissed.mp hm')
    · rw [exec_readNonce_of_le hm (not_lt.mp hlt)]
      refine .short fun got hgot hb => ?_
      obtain ⟨_, _, _, _, hg, _⟩ := hb.asked (hne hgot)
      exact absurd hg.asked hlt

/-- A connection brings the nonce, every read of it being made before the deadline. -/
def Admits (g : Gate τ) (deadline t : τ) (p : Peer τ) : Prop :=
  Brings deadline t g.nonce.bytes p.steps

instance Admits.decidable (g : Gate τ) (deadline t : τ) (p : Peer τ) :
    Decidable (g.Admits deadline t p) :=
  inferInstanceAs (Decidable (Brings deadline t g.nonce.bytes p.steps))

/-- The check of a connection comes to an answer: the connection, if it brings the nonce. -/
theorem authenticate_outcome (g : Gate τ) (p : Peer τ) (timeout : τ) (s : Surroundings τ)
    (hn : g.nonce.IsAscii) (hp : p.FailsBySystem) :
    ∃ o, (exec (g.authenticate p timeout) s).1 = .ok o ∧
      (o.isSome ↔ g.Admits (s.clock + timeout) s.clock p) ∧ ∀ q ∈ o, q.name = p.name := by
  have h := readNonce_outcome (s.clock + timeout) p g.nonce.size [] s hp
  have hsize := g.nonce.length_bytes
  simp only [authenticate, exec_bind, exec_now, exec_tryCatch]
  rcases e : exec (readNonce (s.clock + timeout) p g.nonce.size []) s with ⟨r, t⟩
  rw [e] at h
  cases h with
  | @whole got q hlength hb hname =>
    have hsame : got = g.nonce.bytes ↔ g.Admits (s.clock + timeout) s.clock p :=
      ⟨fun h => by rwa [Admits, ← h], fun h => hb.unique h (hlength.trans hsize.symm)⟩
    simp only [List.nil_append, Peer.exec_setTimeout, exec_bind, exec_pure, hn.admits, exec_lift]
    by_cases hgot : got = g.nonce.bytes
    · refine ⟨some { q with timeout := none }, by simp [hgot], by simp [← hsame, hgot], ?_⟩
      simpa using hname
    · have hgot' : g.nonce.bytes ≠ got := Ne.symm hgot
      exact ⟨none, by simp [hgot'], by simp [← hsame, hgot], by simp⟩
  | short hno => exact ⟨none, by simp, by simp [Admits, hno _ hsize], by simp⟩
  | failed hno hf =>
    refine ⟨none, ?_, by simp [Admits, hno _ hsize], by simp⟩
    simp [hf, exec_map, Except.map]

end Gate

end

end Tether
