import Tether.Proofs.Run.Trials

/-! # The trials of each operation

What can go wrong with each operation on the connection, and which of it the
client takes for a failure of its own.
-/

namespace Tether

open Act Change Trial

variable {τ α : Type}

def Connection.isClosed (c : Connection τ) : Bool := !c.present || !c.active

def failureOf : Except Failure α → Option Failure
  | .ok _ => none
  | .error f => some f

theorem Accounts.check_true {f : Failure} (h : Run.verdict f = .ok exitFailure) (ts : List Trial) :
    Accounts (.check true :: ts) (.error f : Except Failure α) := by
  rw [Accounts, h]
  rfl

theorem accounts_check_false {ts : List Trial} {r : Except Failure α} :
    Accounts (.check false :: ts) r ↔ Accounts ts r := by
  cases r <;> rfl

theorem Accounts.call_some {f g : Failure} {owned : Failure → Bool}
    (h : Run.verdict g = if owned f then .ok exitFailure else Run.verdict f) (ts : List Trial) :
    Accounts (.call (some f) owned :: ts) (.error g : Except Failure α) := by
  rw [Accounts, h]
  rfl

theorem accounts_call_none {owned : Failure → Bool} {ts : List Trial} {r : Except Failure α} :
    Accounts (.call none owned :: ts) r ↔ Accounts ts r := by
  cases r <;> rfl

/-- What comes of a call some of whose failures are taken for the client's own. -/
theorem Accounts.owned (own : Failure → Failure) (hown : ∀ f, Run.verdict (own f) = .ok exitFailure)
    (owned : Failure → Bool) (failure : Option Failure) (x : α) :
    Accounts [.call failure owned] (match failure with
      | none => (.ok x : Except Failure α)
      | some f => .error (if owned f then own f else f)) := by
  cases failure with
  | none => rfl
  | some f =>
    apply Accounts.call_some
    split
    · exact hown f
    · rfl

section

variable {u s : Surroundings τ} {k : Nat}

theorem Continues.isClosed (h : Continues u k s) :
    s.connection.isClosed = u.connection.isClosed := by
  rw [h.connection]
  rfl

theorem Continues.cancel (h : Continues u k s) : s.connection.cancel = u.connection.cancel := by
  rw [h.connection]

theorem Continues.script (h : Continues u k s) : s.connection.script = u.connection.script := by
  rw [h.connection]

end

def Surroundings.next (u : Surroundings τ) (k : Nat) : Channel :=
  u.connection.script (u.connection.channels.length + k)

/-- Nothing fails that gives something back. -/
structure Calm (u : Surroundings τ) : Prop where
  cancel : u.connection.cancel = none
  closeChannel : ∀ i, (u.connection.script i).faults.close = none
  close : u.connection.close = none

namespace Session

def openTrials (c : Connection τ) (ch : Channel) : List Trial :=
  [.check c.isClosed, .call ch.refused Failure.isSsh]

variable (session : Session) {u w : Surroundings τ} {k i : Nat} {ch : Channel}

def asked (i : Nat) (ch : Channel) (w : Surroundings τ) : Surroundings τ :=
  (Change.openChannel ch).apply ((Change.event (.openChannel i)).apply w)

theorem exec_openChannel (hw : Continues u k w) : exec session.openChannel w =
    if u.connection.isClosed then (.error (.trouble (.closed session.host)), w)
    else ((match (u.next k).refused with
      | none => .ok (u.connection.channels.length + k)
      | some f => .error (if f.isSsh then .trouble (.noSession f.text) else f)),
      asked (u.connection.channels.length + k) (u.next k) w) := by
  rw [Surroundings.next, ← hw.isClosed, ← hw.script, ← hw.count, openChannel, exec_tryCatch,
    exec_bind, ensureOpen, exec_bind, exec_get, Connection.isClosed]
  cases hc : (!w.connection.present || !w.connection.active) with
  | true =>
    dsimp only
    rw [hc]
    rfl
  | false =>
    dsimp only
    rw [hc]
    simp only [exec_pure, exec_bind, exec_get, exec_emit, exec_modify, Bool.false_eq_true, if_false]
    cases (w.connection.script w.connection.channels.length).refused <;> rfl

theorem openChannel_tried :
    Tried (Continues u k) (openTrials u.connection (u.next k)) session.openChannel := by
  intro w hw
  rw [exec_openChannel session hw, openTrials]
  cases u.connection.isClosed with
  | true => exact Accounts.check_true rfl _
  | false =>
    rw [accounts_check_false]
    exact .owned (fun f => .trouble (.noSession f.text)) (fun _ => rfl) _ _ _

theorem asked_continues (ch : Channel) (hw : Continues u k w) :
    Continues u (k + 1) (asked (u.connection.channels.length + k) ch w) ∧
      Carries (u.connection.channels.length + k) ch
        (asked (u.connection.channels.length + k) ch w) :=
  (Continues.lasting (.event (.openChannel (u.connection.channels.length + k))) trivial w hw).opened

theorem opened_of_exec {t : Surroundings τ} (hw : Continues u k w)
    (h : exec session.openChannel w = (.ok i, t)) :
    i = u.connection.channels.length + k ∧ Continues u (k + 1) t ∧ Carries i (u.next k) t := by
  rw [exec_openChannel session hw] at h
  cases hclosed : u.connection.isClosed <;> rw [hclosed] at h
  · cases hr : (u.next k).refused <;> rw [hr] at h
    · obtain ⟨rfl, rfl⟩ : u.connection.channels.length + k = i ∧ _ := by simpa using h
      exact ⟨rfl, asked_continues _ hw⟩
    · simp at h
  · simp at h

end Session

namespace Remote

variable {i : Nat} {ch : Channel} {s : Surroundings τ}

theorem exec_channel (i : Nat) (s : Surroundings τ) :
    exec (channel i) s = (.ok (s.connection.channels[i]?.getD {}), s) := rfl

theorem exec_changeChannel (i : Nat) (f : Channel → Channel) (s : Surroundings τ) :
    exec (changeChannel i f) s = (.ok (), (Change.channel i f).apply s) := rfl

theorem exec_call (i : Nat) (c : ChannelCall) (failure : Option Failure) (s : Surroundings τ) :
    exec (call i c failure) s = ((match failure with
      | none => .ok ()
      | some f => .error f), (Change.event (.channel i c)).apply s) := by
  cases failure <;> rfl

theorem exec_close (h : Carries i ch s) (hclose : ch.faults.close = none) :
    exec (close i) s = (.ok (), (Change.event (.channel i .close)).apply s) := by
  rw [close, exec_bind, exec_channel]
  dsimp only
  rw [h.faults, hclose, exec_call]

theorem exec_tryFinally_close {a : Act τ α} (h : Carries i ch (exec a s).2)
    (hclose : ch.faults.close = none) : exec (tryFinally a (close i)) s =
      ((exec a s).1, (Change.event (.channel i .close)).apply (exec a s).2) := by
  rw [exec_tryFinally]
  dsimp only
  rw [exec_close h hclose]

theorem exec_tryCatch_close {a : Act τ α} (h : Carries i ch (exec a s).2)
    (hclose : ch.faults.close = none) :
    exec (tryCatch a fun f => do close i; throw f) s = match exec a s with
      | (.ok x, t) => (.ok x, t)
      | (.error f, t) => (.error f, (Change.event (.channel i .close)).apply t) := by
  rw [exec_tryCatch]
  cases e : exec a s with
  | mk r t =>
    rw [e] at h
    cases r with
    | error f =>
      dsimp only
      rw [exec_bind, exec_close h hclose]
      rfl
    | ok x => rfl

def ptyFailure (ch : Channel) (size : Int × Int) : Option Failure :=
  (if (Pty.request? ch.number Launch.term size.1 size.2 Launch.modes).isNone then some .outOfField
    else none) <|> ch.faults.eventPending <|> ch.faults.userMessage <|> ch.faults.waitForEvent

theorem exec_sendPtyRequest (h : Carries i ch s) (size : Int × Int) :
    (exec (sendPtyRequest i Launch.term size.1 size.2 Launch.modes) s).1 =
      match ptyFailure ch size with
      | none => .ok ()
      | some f => .error f := by
  rw [sendPtyRequest, exec_bind, exec_channel]
  dsimp only
  rw [h.faults, h.number, ptyFailure]
  cases Pty.request? ch.number Launch.term size.1 size.2 Launch.modes with
  | none => rfl
  | some message =>
    cases ch.faults.eventPending with
    | some f => rfl
    | none =>
      cases ch.faults.userMessage with
      | some f => rfl
      | none => cases ch.faults.waitForEvent <;> rfl

theorem requestPty_tried (size : Int × Int) :
    Tried (Carries i ch : Surroundings τ → Prop) [.call (ptyFailure ch size) Failure.isSsh]
      (requestPty i Launch.term size.1 size.2 Launch.modes) := by
  intro s hs
  have howned := Accounts.owned (fun f => .trouble (.noTerminal f.text)) (fun _ => rfl)
    Failure.isSsh (ptyFailure ch size) ()
  have hsent := exec_sendPtyRequest hs size
  rw [requestPty, exec_tryCatch]
  rcases e : exec (sendPtyRequest i Launch.term size.1 size.2 Launch.modes) s with ⟨r, t⟩
  rw [e] at hsent
  cases hf : ptyFailure ch size <;> rw [hf] at howned hsent <;> obtain rfl := hsent <;> exact howned

theorem start_tried (command : String) :
    Tried (Carries i ch : Surroundings τ → Prop) [.call ch.faults.exec Failure.isSsh]
      (start i command) := by
  intro s hs
  have howned := Accounts.owned (fun f => .trouble (.notRun command f.text)) (fun _ => rfl)
    Failure.isSsh ch.faults.exec ()
  have hset := Carries.lasting (.channel i fun ch => { ch with command := some command })
    (fun _ => rfl) s hs
  rw [start, exec_bind, exec_changeChannel]
  dsimp only
  rw [exec_tryCatch, exec_bind, exec_channel]
  dsimp only
  rw [hset.faults, exec_call]
  cases hf : ch.faults.exec <;> rw [hf] at howned <;> exact howned

theorem exec_exitStatus (h : Carries i ch s) :
    exec (exitStatus i) s = ((match ch.faults.exitStatus with
      | none => .ok ch.status
      | some f => .error f), (Change.event (.channel i .exitStatus)).apply s) := by
  rw [exitStatus, exec_bind, exec_channel]
  dsimp only
  rw [h.faults, h.status, exec_bind, exec_call]
  cases ch.faults.exitStatus <;> rfl

theorem wait_tried :
    Tried (Carries i ch : Surroundings τ → Prop)
      [.call ch.faults.exitStatus fun _ => false, .report ch.status] (wait i) := by
  intro s hs
  rw [wait, exec_bind, exec_exitStatus hs]
  cases ch.faults.exitStatus with
  | some f => rfl
  | none =>
    by_cases hnone : ch.status = -1
    · rw [hnone]
      rfl
    · simp only [if_neg hnone]
      by_cases hzero : ch.status = 0
      · rw [hzero]
        rfl
      · rw [if_pos hzero]
        show firstEnd _ = some (.ok ch.status)
        simp [firstEnd, ends, hnone, hzero]

theorem exec_output (h : s.connection.channels[i]? = some ch) :
    exec (output i) s = match ch.faults.makeFile with
      | some f => (.error f, (Change.event (.channel i .makeFile)).apply s)
      | none => (ch.stdout.readAll.1,
        (Change.channel i fun ch' => { ch' with stdout := ch.stdout.readAll.2 }).apply
          ((Change.event (.channel i .makeFile)).apply s)) := by
  have hget : s.connection.channels[i]?.getD {} = ch := by rw [h]; rfl
  rw [output, exec_bind, exec_channel, hget]
  dsimp only
  rw [exec_bind, exec_call]
  cases ch.faults.makeFile with
  | some f => rfl
  | none =>
    dsimp only
    rw [exec_bind, exec_channel]
    dsimp only
    rw [show ((Change.event (.channel i .makeFile)).apply s).connection.channels[i]?.getD {} = ch
      from hget, exec_bind, exec_changeChannel]
    dsimp only
    rw [exec_lift]

end Remote

end Tether
