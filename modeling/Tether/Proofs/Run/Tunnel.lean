import Tether.Proofs.Namespace.Address
import Tether.Proofs.Run.Operations

/-! # The trials of the tunnel

What the opening of the tunnel goes through. What happens behind it later is no
trial of the run.
-/

namespace Tether

open Act Change Trial

variable {τ α : Type}

namespace FileShare

def loadFailure (s : Surroundings τ) : Option Failure :=
  (s.shares.find? fun e => e.name ==
    (firstGiven [none, s.environment.get? variableName]).getD defaultName).bind (·.failure)

def found (s : Surroundings τ) : FileShare τ :=
  let name := (firstGiven [none, s.environment.get? variableName]).getD defaultName
  match s.shares.find? fun e => e.name == name with
  | none => .missing name
  | some e => .installed e.value (reactInTurn e.reactions)

theorem find_result (s : Surroundings τ) :
    (exec (find none) s).1 = match loadFailure s with
      | some f => .error f
      | none => .ok (found s) := by
  rw [find, exec_bind, exec_get, loadFailure, found]
  dsimp only
  rw [exec_bind, exec_emit]
  dsimp only
  cases s.shares.find? fun e => e.name ==
      (firstGiven [none, s.environment.get? variableName]).getD defaultName with
  | none => rfl
  | some entry =>
    simp only [exec_bind, exec_log, exec_emit, Option.bind_some]
    cases entry.failure <;> rfl

theorem find_tried {u : Surroundings τ} {k : Nat} :
    Tried (Continues u k) [.call (loadFailure u) fun _ => false]
      (find none : Act τ (FileShare τ)) := by
  intro s hs
  have hload : loadFailure s = loadFailure u := by
    rw [loadFailure, loadFailure, hs.shares, hs.environment]
  rw [find_result, hload]
  cases loadFailure u <;> rfl

end FileShare

namespace Tunnel

def portFailure (n : Nat) : Option Failure :=
  match Text.readInt (toString n) with
  | .ok _ => none
  | .error f => some (.outside .value f.text)

def shareTrials (u : Surroundings τ) (share : Option (FileShare τ)) : List Trial :=
  if share.isNone then [.call (FileShare.loadFailure u) fun _ => false] else []

def trials (u : Surroundings τ) (share : Option (FileShare τ)) (n : Nat) : List Trial :=
  .check u.connection.isClosed :: .call (portFailure n) (fun _ => false) ::
    .call (failureOf u.connection.forward) Failure.isSsh ::
    .check (u.connection.forward.toOption.any (· < 0)) :: shareTrials u share

variable {u w : Surroundings τ} {k : Nat}

theorem exec_listen (session : Session) (hw : Continues u k w) (n : Nat) :
    (exec (session.listen s!"{loopback}:{(n : Int)}") w).1 =
      if u.connection.isClosed then .error (.trouble (.closed session.host))
      else match portFailure n, u.connection.forward with
        | some f, _ => .error f
        | none, .error f => .error (if f.isSsh then
            .tunnel (.refused s!"{loopback}:{(n : Int)}" f.text) else f)
        | none, .ok p => .ok {
            address := s!"{loopback}:{p}"
            arrivals := w.connection.arrivals
            close := Session.closeForwarding w.connection.forwardings.length } := by
  have hsplit : splitAddress? s!"{loopback}:{(n : Int)}" = some (loopback, toString n) :=
    splitAddress?_nat loopback n
  have hforward : w.connection.forward = u.connection.forward := by rw [hw.connection]
  rw [Session.listen, hsplit, ← hw.isClosed, ← hforward, Connection.isClosed]
  dsimp only
  rw [exec_bind, Session.ensureOpen, exec_bind, exec_get]
  cases hc : (!w.connection.present || !w.connection.active) with
  | true =>
    dsimp only
    rw [hc]
    rfl
  | false =>
    rw [if_neg Bool.false_ne_true, portFailure]
    dsimp only
    rw [hc]
    simp only [exec_pure, Bool.false_eq_true, if_false]
    cases Text.readInt (toString n) with
    | error f => rfl
    | ok m =>
      simp only [exec_bind, exec_get, exec_emit]
      cases w.connection.forward <;> rfl

theorem closeForwarding_ok (h : w.connection.cancel = none) (i : Nat) :
    (exec (Session.closeForwarding i) w).1 = .ok () := by
  rw [Session.closeForwarding, exec_bind, exec_get]
  dsimp only
  cases w.connection.forwardings[i]? with
  | none => rfl
  | some f =>
    cases hclosed : f.closed with
    | true => simp [hclosed]
    | false => simp [hclosed, h, exec_bind]

theorem thread_ok (name : String) (a : Act τ Unit) (w : Surroundings τ) :
    ∃ t, exec (Act.thread name a) w = (.ok (), t) := by
  rw [Act.thread, exec_tryCatch]
  rcases exec a w with ⟨f | ⟨⟩, t⟩ <;> exact ⟨_, rfl⟩

/-- Nothing that goes wrong behind the listener is seen by the run. -/
theorem serve_tried (name : String) (a : FileShare τ → Act τ Unit) (x : α)
    (share : Option (FileShare τ)) :
    Tried (Continues u k) (shareTrials u share) (do
      let share ← match share with
        | some s => pure s
        | none => FileShare.find none
      Act.thread name (a share)
      return x) := by
  have hthread (share : FileShare τ) : Tried (Continues u k) [] (do
      Act.thread name (a share)
      return x) := by
    apply Tried.of_ok
    intro s _
    obtain ⟨t, ht⟩ := thread_ok name (a share) s
    exact ⟨x, t, by rw [exec_bind, ht]; rfl⟩
  cases share with
  | some share => exact hthread share
  | none =>
    exact FileShare.find_tried.quiet Continues.lasting (FileShare.find_within none).ofGate
      SessionView.refl hthread

/-- The listener is given back when its port cannot be told to anyone. -/
theorem announce_tried {l : Listener τ} {p : Int} (haddress : l.address = s!"{loopback}:{p}")
    {i : Nat} (hclose : l.close = Session.closeForwarding i) (name : String)
    (a : FileShare τ → Act τ Unit) (share : Option (FileShare τ)) (hcalm : Calm u) :
    Tried (Continues u k) (.check (p < 0) :: shareTrials u share) (do
      let port ← tryCatch (Act.lift (parsePort l.address)) fun f => do
        l.close
        throw f
      Act.log loggerName .debug s!"reverse listener {l.address} port {port}"
      let share ← match share with
        | some s => pure s
        | none => FileShare.find none
      Act.thread name (a share)
      return port) := by
  intro w hw
  rw [exec_bind, exec_tryCatch, exec_lift, haddress, parsePort_int]
  by_cases hp : 0 ≤ p
  · have hnonneg : ¬p < 0 := by omega
    rw [if_pos hp, decide_eq_false hnonneg, accounts_check_false]
    dsimp only
    rw [exec_bind, exec_log]
    exact serve_tried name a (toString p) share _
      (Continues.lasting (.log loggerName .debug _) trivial _ hw)
  · have hnegative : p < 0 := by omega
    rw [if_neg hp, decide_eq_true hnegative]
    dsimp only
    have hclosed := closeForwarding_ok (hw.cancel.trans hcalm.cancel) i
    rw [hclose, exec_bind]
    rcases e : exec (Session.closeForwarding i) w with ⟨f | ⟨⟩, v⟩ <;> rw [e] at hclosed
    · simp at hclosed
    · exact Accounts.check_true rfl _

theorem negotiate_tried [Time τ] (session : Session) (root : Path) (nonce : Nonce) (deadline : τ)
    (share : Option (FileShare τ)) (n : Nat) (hcalm : Calm u) :
    Tried (Continues u k) (trials u share n)
      (negotiate session.listen root nonce deadline share n) := by
  intro w hw
  have hlisten := exec_listen session hw n
  have hkept := Continues.lasting.exec (session.listen_within s!"{loopback}:{(n : Int)}") .refl hw
  rw [negotiate, exec_bind, trials]
  rcases e : exec (session.listen s!"{loopback}:{(n : Int)}") w with ⟨r, t⟩
  rw [e] at hlisten hkept
  dsimp only at hlisten hkept
  subst hlisten
  cases u.connection.isClosed with
  | true => exact Accounts.check_true rfl _
  | false =>
    rw [accounts_check_false, if_neg Bool.false_ne_true]
    cases portFailure n with
    | some f => rfl
    | none =>
      rw [accounts_call_none]
      cases u.connection.forward with
      | error f =>
        apply Accounts.call_some
        by_cases hs : f.isSsh
        · simp [hs, Run.verdict, Failure.isClient]
        · simp [hs]
      | ok p =>
        rw [failureOf, accounts_call_none]
        exact announce_tried rfl rfl "cpu-namespace" _ share hcalm t hkept

end Tunnel

end Tether
