import Tether.Namespace.Gate
import Tether.Proofs.Act.Change
import Mathlib.Data.List.Forall2

/-! # The footprint of the gate

Reading a nonce makes timed reads and records, and nothing else; serving adds
what the file-share server does. Two gates that tell related connections apart
in the same way run alike.
-/

namespace Tether

variable {τ α : Type}

structure GateView (s t : Surroundings τ) : Prop where
  clock : s.clock = t.clock
  served : s.served = t.served
  environment : s.environment = t.environment
  shares : s.shares = t.shares

theorem GateView.refl (s : Surroundings τ) : GateView s s := ⟨rfl, rfl, rfl, rfl⟩

namespace Change

inductive IsReading : Change τ → Prop
  | setTimeout (peer : String) (span : Option τ) : IsReading (.event (.setTimeout peer span))
  | receive (peer : String) (n : Nat) : IsReading (.event (.receive peer n))
  | clock (f : τ → τ) : IsReading (.clock f)
  | log (level : Level) (text : String) : IsReading (.log gateLogName level text)

inductive IsFinding : Change τ → Prop
  | findShares : IsFinding (.event .findShares)
  | log (level : Level) (text : String) : IsFinding (.log gateLogName level text)
  | loadShare (value : String) : IsFinding (.event (.loadShare value))

inductive OfGate : Change τ → Prop
  | reading {c : Change τ} (h : IsReading c) : OfGate c
  | acceptCall (limit : Option τ) : OfGate (.event (.accept limit))
  | accept (p : Peer τ) : OfGate (.accept p)
  | closePeer (peer : String) : OfGate (.event (.closePeer peer))
  | serve (label peer : String) (root : Path) : OfGate (.event (.serve label peer root))
  | visit (peer : String) (bs : Bytes) : OfGate (.event (.served peer bs))
  | served (n : Nat) : OfGate (.served n)
  | findShares : OfGate (.event .findShares)
  | loadShare (value : String) : OfGate (.event (.loadShare value))

theorem IsFinding.ofGate {c : Change τ} (h : IsFinding c) : OfGate c := by
  cases h with
  | findShares => exact .findShares
  | log level text => exact .reading (.log level text)
  | loadShare value => exact .loadShare value

end Change

open Act Change

theorem Peer.close_within (p : Peer τ) : Within GateView OfGate p.close :=
  .emit (.closePeer p.name)

theorem Peer.setTimeout_within (p : Peer τ) (span : Option τ) :
    Within GateView IsReading (p.setTimeout span) :=
  (Within.emit (.setTimeout p.name span)).bind fun _ => .pure _

theorem Peer.receive_within [Time τ] (p : Peer τ) (n : Nat) :
    Within GateView IsReading (p.receive n) := by
  have hwait (d : τ) : Within GateView IsReading (wait d) := .wait d fun f => .clock f
  refine (Within.emit (.receive p.name n)).bind fun _ => ?_
  cases p.steps with
  | nil => exact .pure _
  | cons step rest =>
    dsimp only
    cases step.isMissed p.timeout with
    | true => exact (hwait _).bind fun _ => .throw _
    | false =>
      refine (hwait _).bind fun _ => ?_
      cases step.act with
      | fail f => exact .throw f
      | send bs =>
        dsimp only
        split <;> exact .pure _

theorem FileShare.serve_within [Time τ] (s : FileShare τ) (p : Peer τ) (root : Path) :
    Within GateView OfGate (s.serve p root) := by
  cases s with
  | missing name =>
    exact (Within.log (.reading (.log _ _))).bind fun _ => p.close_within
  | installed label react =>
    refine (Within.emit (.serve label p.name root)).bind fun _ => ?_
    refine .get (fun s => ?_) fun s t h => by rw [h.served]
    refine (Within.change (.served _) (.served _)).bind fun _ => ?_
    dsimp only
    split
    · refine ((p.receive_within _).mono (fun _ _ h => h) fun _ => .reading).bind fun _ => ?_
      exact (Within.emit (.visit _ _)).bind fun _ => .failIf _
    · exact .failIf _

theorem FileShare.find_finding (name : Option String) :
    Within GateView IsFinding (FileShare.find name : Act τ (FileShare τ)) := by
  refine .get (fun s => ?_) fun s t h => by rw [h.environment, h.shares]
  refine (Within.emit .findShares).bind fun _ => ?_
  split
  · exact .pure _
  · refine (Within.log (.log _ _)).bind fun _ => ?_
    refine (Within.emit (.loadShare _)).bind fun _ => ?_
    exact (Within.failIf _).bind fun _ => .pure _

theorem FileShare.find_within (name : Option String) :
    Within GateView OfGate (FileShare.find name : Act τ (FileShare τ)) :=
  (FileShare.find_finding name).mono (fun _ _ h => h) fun _ => IsFinding.ofGate

namespace Gate

variable [Time τ]

theorem readNonce_within (deadline : τ) (p : Peer τ) (missing : Nat) (received : Bytes) :
    Within GateView IsReading (readNonce deadline p missing received) := by
  induction missing using Nat.strongRecOn generalizing p received with
  | ind missing ih =>
    rw [readNonce]
    split
    · exact .pure _
    · refine Within.get (fun s => ?_) fun s t h => by rw [h.clock]
      dsimp only
      split
      · exact .pure _
      · refine (p.setTimeout_within _).bind fun q => (q.receive_within _).bind fun r => ?_
        split
        · exact .pure _
        · rename_i hm _ _ hc
          have := List.length_pos_iff.mpr hc
          exact ih _ (by omega) _ _

theorem authenticate_within (g : Gate τ) (p : Peer τ) (timeout : τ) :
    Within GateView IsReading (g.authenticate p timeout) := by
  refine Within.get (fun s => ?_) fun s t h => by rw [h.clock]
  refine Within.bind (.tryCatch ?_ fun f => ?_) fun answer => ?_
  · refine (readNonce_within _ _ _ _).bind fun r => ?_
    split
    · exact .pure _
    · exact (Peer.setTimeout_within _ _).bind fun _ => .pure _
  · split
    · exact (Within.log (.log _ _)).bind fun _ => .pure _
    · exact .throw f
  · split
    · exact .pure _
    · refine (Within.lift _).bind fun b => ?_
      split <;> exact .pure _

end Gate

/-- Arrivals that differ at most in what becomes of the connections. -/
structure Arrival.Twin (A : Peer τ → Peer τ → Prop) (a b : Arrival τ) : Prop where
  delay : a.delay = b.delay
  late : a.late = b.late
  delivery : match a.delivery, b.delivery with
    | .peer p, .peer q => A p q
    | .nothing, .nothing => True
    | .failure f, .failure f' => f = f'
    | _, _ => False

namespace Gate

variable [Time τ]

/-- Two gates before the same share, neither of which is told from the other by how it deals
with related connections. -/
structure Twin (R : Surroundings τ → Surroundings τ → Prop) (A : Peer τ → Peer τ → Prop)
    (g h : Gate τ) : Prop where
  share : g.share = h.share
  root : g.root = h.root
  deadline : g.deadline = h.deadline
  name : ∀ p q, A p q → p.name = q.name
  accept : ∀ p q, A p q → ∀ s t, R s t → R ((Change.accept p).apply s) ((Change.accept q).apply t)
  authenticate : ∀ p q, A p q → ∀ timeout,
    Agree R (g.authenticate p timeout) (h.authenticate q timeout)

variable {C : Change τ → Prop} {R : Surroundings τ → Surroundings τ → Prop}
  {A : Peer τ → Peer τ → Prop} {g h : Gate τ}

def Found (A : Peer τ → Peer τ → Prop) : Option (Peer τ × List (Arrival τ)) →
    Option (Peer τ × List (Arrival τ)) → Prop :=
  Option.Rel fun x y => x.1 = y.1 ∧ List.Forall₂ (Arrival.Twin A) x.2 y.2

theorem record_relate (hT : Twin R A g h) {p q : Peer τ} (hpq : A p q) :
    Agree R p.record q.record :=
  fun s t hst => ⟨rfl, hT.accept p q hpq s t hst⟩

theorem take_relate (hR : Frame GateView OfGate R) (hT : Twin R A g h) (limit : Option τ)
    {a b : Arrival τ} (hab : a.Twin A b) :
    Relate R (Option.Rel A) (a.take limit) (b.take limit) := by
  have hwait (d : τ) : Agree R (wait d) (wait d) :=
    Within.wait d (fun f => .reading (.clock f)) R hR
  obtain ⟨hdelay, hlate, hdelivery⟩ := hab
  have hmissed : a.isMissed limit = b.isMissed limit := by
    rw [Arrival.isMissed, Arrival.isMissed, hdelay, hlate]
  rw [Arrival.take, Arrival.take, hmissed, hdelay]
  cases b.isMissed limit with
  | true => exact (hwait _).bind fun _ => .pure .none
  | false =>
    refine (hwait _).bind fun _ => ?_
    revert hdelivery
    rcases a.delivery with p | _ | f <;> rcases b.delivery with q | _ | f' <;>
      intro hdelivery <;> first | exact hdelivery.elim | skip
    · exact (record_relate hT hdelivery).bind fun _ => .pure (.some hdelivery)
    · exact .pure .none
    · obtain rfl : f = f' := hdelivery
      exact .throw f

theorem accept_relate (hR : Frame GateView OfGate R) (hT : Twin R A g h) (limit : Option τ)
    {as bs : List (Arrival τ)} (ha : List.Forall₂ (Arrival.Twin A) as bs) :
    Relate R (Option.Rel A) (accept limit as) (accept limit bs) := by
  have hcall : Agree R (emit (.accept limit)) (emit (.accept limit)) :=
    Within.emit (.acceptCall limit) R hR
  refine hcall.bind fun _ => ?_
  cases ha with
  | cons hab _ => exact take_relate hR hT limit hab
  | nil =>
    cases limit with
    | none => exact .pure .none
    | some t =>
      have hwait : Agree R (wait t) (wait t) :=
        Within.wait t (fun f => .reading (.clock f)) R hR
      exact hwait.bind fun _ => .pure .none

theorem closePeer_relate (hR : Frame GateView OfGate R) (hT : Twin R A g h) {p q : Peer τ}
    (hpq : A p q) : Agree R p.close q.close := by
  rw [Peer.close, Peer.close, hT.name p q hpq]
  exact Within.emit (.closePeer q.name) R hR

omit [Time τ] in
theorem logged_relate (hR : Frame GateView OfGate R) (level : Level) (text : String) :
    Agree R (Act.log gateLogName level text) (Act.log gateLogName level text) :=
  Within.log (.reading (.log level text)) R hR

theorem awaitFirst_relate (hR : Frame GateView OfGate R) (hT : Twin R A g h) (deadline : τ)
    {as bs : List (Arrival τ)} (ha : List.Forall₂ (Arrival.Twin A) as bs) :
    Relate R (Found A) (g.awaitFirst deadline as) (h.awaitFirst deadline bs) := by
  induction ha with
  | nil =>
    rw [awaitFirst, awaitFirst]
    refine Relate.get fun s t hst => ?_
    rw [(hR.sees hst).clock]
    split
    · exact .pure .none
    · exact (accept_relate hR hT _ .nil).bind fun _ _ _ => .pure .none
  | cons hab ha ih =>
    rw [awaitFirst, awaitFirst]
    refine Relate.get fun s t hst => ?_
    rw [(hR.sees hst).clock]
    split
    · exact .pure .none
    · refine (accept_relate hR hT _ (.cons hab ha)).bind fun o o' ho => ?_
      cases ho with
      | none => exact .pure .none
      | some hpq =>
        refine Relate.get fun s t hst => ?_
        rw [(hR.sees hst).clock]
        refine Agree.bind (hT.authenticate _ _ hpq _) fun r => ?_
        cases r with
        | some p => exact .pure (.some ⟨rfl, ha⟩)
        | none =>
          refine (logged_relate hR _ _).bind fun _ => ?_
          exact (closePeer_relate hR hT hpq).bind fun _ => ih

theorem hand_relate (hR : Frame GateView OfGate R) (hT : Twin R A g h) (p : Peer τ) :
    Agree R (g.hand p) (h.hand p) := by
  rw [hand, hand, hT.share, hT.root]
  exact h.share.serve_within p h.root R hR

theorem check_relate (hR : Frame GateView OfGate R) (hT : Twin R A g h) {p q : Peer τ}
    (hpq : A p q) : Agree R (g.check p) (h.check q) := by
  rw [check, check, hT.deadline]
  refine Agree.bind (hT.authenticate p q hpq _) fun r => ?_
  cases r with
  | none => exact logged_relate hR _ _
  | some p => exact (logged_relate hR _ _).bind fun _ => hand_relate hR hT p

omit [Time τ] in
theorem attend_relate (hR : Frame GateView OfGate R) {p q : Peer τ} (hname : p.name = q.name)
    {a b : Act τ Unit} (hab : Agree R a b) : Agree R (attend p a) (attend q b) := by
  have hclose : Agree R p.close q.close := by
    rw [Peer.close, Peer.close, hname]
    exact Within.emit (.closePeer q.name) R hR
  exact (Leads.tryCatch hab fun _ => logged_relate hR _ _).tryFinally hclose

theorem attendAll_relate (hR : Frame GateView OfGate R) (hT : Twin R A g h)
    {as bs : List (Arrival τ)} (ha : List.Forall₂ (Arrival.Twin A) as bs) :
    Agree R (g.attendAll as) (h.attendAll bs) := by
  induction ha with
  | nil =>
    exact (accept_relate hR hT _ .nil).bind fun _ _ _ => .pure rfl
  | cons hab ha ih =>
    refine (accept_relate hR hT _ (.cons hab ha)).bind fun o o' ho => ?_
    cases ho with
    | none => exact .pure rfl
    | some hpq =>
      have hcheck := attend_relate hR (hT.name _ _ hpq) (check_relate hR hT hpq)
      exact hcheck.bind fun _ => ih

theorem run_relate (hR : Frame GateView OfGate R) (hT : Twin R A g h) {l m : Listener τ}
    (haddress : l.address = m.address) (ha : List.Forall₂ (Arrival.Twin A) l.arrivals m.arrivals)
    (hclose : Agree R l.close m.close) : Agree R (g.run l) (h.run m) := by
  refine Relate.get fun s t hst => ?_
  rw [(hR.sees hst).clock, hT.deadline]
  refine (awaitFirst_relate hR hT _ ha).bind fun o o' ho => ?_
  cases ho with
  | none =>
    have htext : g.abandonedText = h.abandonedText := by
      unfold abandonedText
      rw [hT.deadline]
    dsimp only
    rw [htext]
    refine (logged_relate hR _ _).bind fun _ => ?_
    exact hclose.bind fun _ => .pure rfl
  | @some x y hxy =>
    obtain ⟨p, as⟩ := x
    obtain ⟨q, bs⟩ := y
    obtain ⟨rfl, ha⟩ := hxy
    rw [haddress]
    refine (logged_relate hR _ _).bind fun _ => ?_
    refine (attend_relate hR rfl (hand_relate hR hT p)).bind fun _ => ?_
    exact (attendAll_relate hR hT ha).bind fun _ => .pure rfl

theorem twin_self (hR : Frame GateView OfGate R) (g : Gate τ) : Twin R Eq g g where
  share := rfl
  root := rfl
  deadline := rfl
  name _ _ e := e ▸ rfl
  accept p _ e _ _ hst := e ▸ hR.keeps (.accept p) hst
  authenticate p _ e timeout := e ▸ (g.authenticate_within p timeout).mono (fun _ _ h => h)
    (fun _ => .reading) R hR

omit [Time τ] in
theorem forall₂_twin_self (as : List (Arrival τ)) : List.Forall₂ (Arrival.Twin Eq) as as := by
  refine List.forall₂_same.mpr fun a _ => ⟨rfl, rfl, ?_⟩
  cases a.delivery
  · exact rfl
  · exact trivial
  · exact rfl

theorem run_within {V : Surroundings τ → Surroundings τ → Prop} (g : Gate τ) {l : Listener τ}
    (hclose : Within V C l.close) (hV : ∀ s t, V s t → GateView s t)
    (hC : ∀ c, OfGate c → C c) : Within V C (g.run l) := by
  intro R hR
  have hR' : Frame GateView OfGate R := hR.mono hV hC
  exact run_relate hR' (twin_self hR' g) rfl (forall₂_twin_self l.arrivals) (hclose R hR)

end Gate

end Tether
