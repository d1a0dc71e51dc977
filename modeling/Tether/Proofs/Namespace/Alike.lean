import Tether.Proofs.Namespace.Reading
import Tether.Proofs.Footprint.Gate

/-! # Connections that cannot be told apart

Two connections are alike for two nonces if reading them goes the same way and
comes to the same answer. Two gates with these nonces do the same with them.
-/

namespace Tether

variable {τ : Type}

open Act

structure PeerStep.Paired (a b : PeerStep τ) : Prop where
  delay : a.delay = b.delay
  late : a.late = b.late

section

variable [Zero τ]

/-- Reading `missing` bytes goes the same way for two peers, and what was received with them
is the first value for the one if and only if it is the second for the other. -/
inductive ReadAlike (n n' : Bytes) : Nat → Bytes → Bytes → List (PeerStep τ) →
    List (PeerStep τ) → Prop
  | admitted {steps : List (PeerStep τ)} : ReadAlike n n' 0 n n' steps steps
  | rejected {received received' : Bytes} {steps steps' : List (PeerStep τ)}
      (h : received ≠ n) (h' : received' ≠ n') : ReadAlike n n' 0 received received' steps steps'
  | ended {missing : Nat} {received received' : Bytes} :
      ReadAlike n n' (missing + 1) received received' [] []
  | failed {missing : Nat} {received received' : Bytes} {a b : PeerStep τ}
      {rest rest' : List (PeerStep τ)} {f : Failure} (paired : a.Paired b)
      (fails : a.act = .fail f) (fails' : b.act = .fail f) :
      ReadAlike n n' (missing + 1) received received' (a :: rest) (b :: rest')
  | closed {missing : Nat} {received received' : Bytes} {a b : PeerStep τ}
      {rest rest' : List (PeerStep τ)} (paired : a.Paired b) (sends : a.act = .send [])
      (sends' : b.act = .send []) :
      ReadAlike n n' (missing + 1) received received' (a :: rest) (b :: rest')
  | part {missing : Nat} {received received' : Bytes} {a b : PeerStep τ}
      {rest rest' : List (PeerStep τ)} {bs bs' : Bytes} (paired : a.Paired b)
      (sends : a.act = .send bs) (sends' : b.act = .send bs')
      (length : (bs.take (missing + 1)).length = (bs'.take (missing + 1)).length)
      (nonempty : bs ≠ [])
      (next : ReadAlike n n' (missing + 1 - (bs.take (missing + 1)).length)
        (received ++ bs.take (missing + 1)) (received' ++ bs'.take (missing + 1))
        (Peer.stepsAfter (missing + 1) bs rest) (Peer.stepsAfter (missing + 1) bs' rest')) :
      ReadAlike n n' (missing + 1) received received' (a :: rest) (b :: rest')

theorem ReadAlike.atOnce {n n' : Bytes} (length : n.length = n'.length) (nonempty : n ≠ [])
    {a b : PeerStep τ} (paired : a.Paired b) (sends : a.act = .send n) (sends' : b.act = .send n')
    (rest : List (PeerStep τ)) : ReadAlike n n' n.length [] [] (a :: rest) (b :: rest) := by
  obtain ⟨k, hk⟩ := Nat.exists_eq_add_one_of_ne_zero (mt List.length_eq_zero_iff.mp nonempty)
  have htake : n.take (k + 1) = n := List.take_of_length_le hk.le
  have htake' : n'.take (k + 1) = n' := List.take_of_length_le (length ▸ hk.le)
  have hafter : Peer.stepsAfter (k + 1) n rest = rest := if_neg (by omega)
  have hafter' : Peer.stepsAfter (k + 1) n' rest = rest := if_neg (by omega)
  rw [hk]
  refine .part paired sends sends' (by rw [htake, htake', length]) nonempty ?_
  rw [htake, htake', hafter, hafter', hk, Nat.sub_self]
  exact .admitted

/-- Two connections of one name, between which two nonces make no difference. -/
structure Peer.Alike (n n' : Nonce) (p q : Peer τ) : Prop where
  name : p.name = q.name
  timeout : p.timeout = q.timeout
  reads : ReadAlike n.bytes n'.bytes n.size [] [] p.steps q.steps

end

section

variable [Time τ] {R : Surroundings τ → Surroundings τ → Prop}

/-- What two peers do when they are read is alike up to the bytes that they send. -/
def PeerAct.Alike (T : Bytes → Bytes → Prop) : PeerAct → PeerAct → Prop
  | .send bs, .send bs' => T bs bs'
  | .fail f, .fail g => f = g
  | _, _ => False

theorem Peer.receive_relate (hR : Frame GateView Change.IsReading R) {a b : PeerStep τ}
    {T : Bytes → Bytes → Prop} (paired : a.Paired b) (hact : a.act.Alike T b.act) (name : String)
    (timeout : Option τ) (rest rest' : List (PeerStep τ)) (n : Nat) :
    Relate R (fun x y => ∃ bs bs', T bs bs' ∧
        x = (bs.take n, ⟨name, stepsAfter n bs rest, timeout⟩) ∧
        y = (bs'.take n, ⟨name, stepsAfter n bs' rest', timeout⟩))
      (receive ⟨name, a :: rest, timeout⟩ n) (receive ⟨name, b :: rest', timeout⟩ n) := by
  intro s t hst
  have hreceived (span : τ) : R (received ⟨name, a :: rest, timeout⟩ n span s)
      (received ⟨name, b :: rest', timeout⟩ n span t) :=
    hR.keeps (.clock _) (hR.keeps (.receive name n) hst)
  have hmissed : a.isMissed timeout = b.isMissed timeout := by
    rw [PeerStep.isMissed, PeerStep.isMissed, paired.delay, paired.late]
  cases hm : b.isMissed timeout with
  | true =>
    rw [exec_receive_missed rfl (hmissed.trans hm), exec_receive_missed rfl hm]
    exact ⟨rfl, hreceived _⟩
  | false =>
    rcases ha : a.act with bs | f <;> rcases hb : b.act with bs' | g <;> rw [ha, hb] at hact
    · rw [exec_receive_send rfl (hmissed.trans hm) ha, exec_receive_send rfl hm hb, paired.delay]
      exact ⟨⟨bs, bs', hact, rfl, rfl⟩, hreceived _⟩
    · exact hact.elim
    · exact hact.elim
    · rw [exec_receive_fail rfl (hmissed.trans hm) ha, exec_receive_fail rfl hm hb, paired.delay]
      exact ⟨hact, hreceived _⟩

end

namespace Gate

variable [Time τ] {R : Surroundings τ → Surroundings τ → Prop}

def Answers (n n' : Bytes) : Option (Bytes × Peer τ) → Option (Bytes × Peer τ) → Prop :=
  Option.Rel fun x y => x.1 = n ∧ y.1 = n' ∧ x.2 = y.2 ∨ x.1 ≠ n ∧ y.1 ≠ n' ∧ x.2.name = y.2.name

theorem readNonce_relate_of_receive (hR : Frame GateView Change.IsReading R) {n n' : Bytes}
    {deadline : τ} {missing : Nat} {received received' : Bytes} {p q : Peer τ}
    (hname : p.name = q.name)
    (hreceive : ∀ limit, ∃ T, Relate R T (Peer.receive { p with timeout := limit } (missing + 1))
        (Peer.receive { q with timeout := limit } (missing + 1)) ∧
      ∀ x y, T x y → x.1 = [] ∧ y.1 = [] ∨ x.1 ≠ [] ∧ y.1 ≠ [] ∧ Relate R (Answers n n')
        (readNonce deadline x.2 (missing + 1 - x.1.length) (received ++ x.1))
        (readNonce deadline y.2 (missing + 1 - y.1.length) (received' ++ y.1))) :
    Relate R (Answers n n') (readNonce deadline p (missing + 1) received)
      (readNonce deadline q (missing + 1) received') := by
  rw [readNonce, readNonce, dif_neg (Nat.succ_ne_zero _), dif_neg (Nat.succ_ne_zero _)]
  refine Relate.get fun s t hst => ?_
  rw [(hR.sees hst).clock]
  dsimp only
  split
  · exact .pure .none
  · have htimeout (limit : Option τ) : Relate R
        (fun x y => x = { p with timeout := limit } ∧ y = { q with timeout := limit })
        (p.setTimeout limit) (q.setTimeout limit) := fun s t hst => by
      rw [Peer.exec_setTimeout, Peer.exec_setTimeout, hname]
      exact ⟨⟨rfl, rfl⟩, hR.keeps (.setTimeout q.name limit) hst⟩
    refine (htimeout _).bind ?_
    rintro _ _ ⟨rfl, rfl⟩
    obtain ⟨T, hread, hT⟩ := hreceive (some (deadline - t.clock))
    refine hread.bind fun x y hxy => ?_
    obtain ⟨hx, hy⟩ | ⟨hx, hy, hnext⟩ := hT x y hxy
    · rw [dif_pos hx, dif_pos hy]
      exact .pure .none
    · rw [dif_neg hx, dif_neg hy]
      exact hnext

theorem readNonce_relate (hR : Frame GateView Change.IsReading R) (n n' : Bytes) (deadline : τ)
    {missing : Nat} {received received' : Bytes} {steps steps' : List (PeerStep τ)}
    (h : ReadAlike n n' missing received received' steps steps') (name : String)
    (timeout : Option τ) :
    Relate R (Answers n n') (readNonce deadline ⟨name, steps, timeout⟩ missing received)
      (readNonce deadline ⟨name, steps', timeout⟩ missing received') := by
  induction h generalizing timeout with
  | admitted =>
    rw [readNonce, readNonce, dif_pos rfl, dif_pos rfl]
    exact .pure (.some (.inl ⟨rfl, rfl, rfl⟩))
  | rejected h h' =>
    rw [readNonce, readNonce, dif_pos rfl, dif_pos rfl]
    exact .pure (.some (.inr ⟨h, h', rfl⟩))
  | ended =>
    refine readNonce_relate_of_receive hR rfl fun limit =>
      ⟨fun x y => x.1 = [] ∧ y.1 = [], fun s t hst => ?_, fun x y h => .inl h⟩
    rw [Peer.exec_receive_nil rfl, Peer.exec_receive_nil rfl]
    exact ⟨⟨rfl, rfl⟩, hR.keeps (.receive _ _) hst⟩
  | @failed missing received received' a b rest rest' f paired fails fails' =>
    have hact : a.act.Alike (fun _ _ => False) b.act := by
      rw [fails, fails']
      exact rfl
    refine readNonce_relate_of_receive hR rfl fun limit =>
      ⟨_, Peer.receive_relate hR paired hact name limit rest rest' _, fun x y h => ?_⟩
    obtain ⟨_, _, h, _⟩ := h
    exact h.elim
  | @closed missing received received' a b rest rest' paired sends sends' =>
    have hact : a.act.Alike (fun bs bs' => bs = [] ∧ bs' = []) b.act := by
      rw [sends, sends']
      exact ⟨rfl, rfl⟩
    refine readNonce_relate_of_receive hR rfl fun limit =>
      ⟨_, Peer.receive_relate hR paired hact name limit rest rest' _, fun x y h => ?_⟩
    obtain ⟨_, _, ⟨rfl, rfl⟩, rfl, rfl⟩ := h
    exact .inl ⟨by simp, by simp⟩
  | @part missing received received' a b rest rest' bs bs' paired sends sends' length nonempty
      next ih =>
    have hact : a.act.Alike (fun cs cs' => cs = bs ∧ cs' = bs') b.act := by
      rw [sends, sends']
      exact ⟨rfl, rfl⟩
    have hnonempty' : bs' ≠ [] := by
      rintro rfl
      rw [List.take_nil, List.length_nil, List.length_eq_zero_iff] at length
      simp [nonempty] at length
    refine readNonce_relate_of_receive hR rfl fun limit =>
      ⟨_, Peer.receive_relate hR paired hact name limit rest rest' _, fun x y h => ?_⟩
    obtain ⟨_, _, ⟨rfl, rfl⟩, rfl, rfl⟩ := h
    refine .inr ⟨by simpa using nonempty, by simpa using hnonempty', ?_⟩
    rw [← length]
    exact ih limit

theorem authenticate_relate (hR : Frame GateView Change.IsReading R) {g h : Gate τ}
    (hg : g.nonce.IsAscii) (hh : h.nonce.IsAscii) (hsize : g.nonce.size = h.nonce.size)
    {p q : Peer τ} (hpq : p.Alike g.nonce h.nonce q) (timeout : τ) :
    Agree R (g.authenticate p timeout) (h.authenticate q timeout) := by
  have hread (deadline : τ) : Relate R (Answers g.nonce.bytes h.nonce.bytes)
      (readNonce deadline p g.nonce.size []) (readNonce deadline q h.nonce.size []) := by
    obtain ⟨name, steps, span⟩ := p
    obtain ⟨name', steps', span'⟩ := q
    obtain rfl : name = name' := hpq.name
    obtain rfl : span = span' := hpq.timeout
    rw [← hsize]
    exact readNonce_relate hR _ _ deadline hpq.reads name span
  have hforget {x y : Peer τ} (hname : x.name = y.name) : Relate R
      (fun u v => u = { x with timeout := none } ∧ v = { y with timeout := none })
      (x.setTimeout none) (y.setTimeout none) := fun s t hst => by
    rw [Peer.exec_setTimeout, Peer.exec_setTimeout, hname]
    exact ⟨⟨rfl, rfl⟩, hR.keeps (.setTimeout y.name none) hst⟩
  refine Relate.get fun s t hst => ?_
  rw [(hR.sees hst).clock]
  refine Relate.bind (S := Answers g.nonce.bytes h.nonce.bytes) (Leads.tryCatch ?_ fun f => ?_) ?_
  · refine (hread _).bind fun x y hxy => ?_
    cases hxy with
    | none => exact .pure .none
    | @some x y hxy =>
      obtain ⟨hx, hy, hsame⟩ | ⟨hx, hy, hname⟩ := hxy
      · refine (hforget (congrArg Peer.name hsame)).bind ?_
        rintro _ _ ⟨rfl, rfl⟩
        exact .pure (.some (.inl ⟨hx, hy, by rw [hsame]⟩))
      · refine (hforget hname).bind ?_
        rintro _ _ ⟨rfl, rfl⟩
        exact .pure (.some (.inr ⟨hx, hy, hname⟩))
  · split
    · exact Agree.bind (Within.log (.log _ _) R hR) fun _ => .pure .none
    · exact .throw f
  · intro x y hxy
    cases hxy with
    | none => exact .pure rfl
    | @some x y hxy =>
      dsimp only
      rw [hg.admits, hh.admits]
      obtain ⟨hx, hy, hsame⟩ | ⟨hx, hy, -⟩ := hxy
      · rw [hx, hy, hsame, beq_self_eq_true, beq_self_eq_true]
        exact .pure rfl
      · rw [beq_eq_false_iff_ne.mpr (Ne.symm hx), beq_eq_false_iff_ne.mpr (Ne.symm hy)]
        exact .pure rfl

end Gate

end Tether
