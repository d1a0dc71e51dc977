import Tether.Proofs.Run.Operations

/-! # The trials of the lookup

A command that is run to its end, and the lookup of the server side by such a
command.
-/

namespace Tether

open Act Change Trial

variable {τ α : Type}

namespace Session

def runFailure (ch : Channel) : Option Failure :=
  ch.faults.exec <|> ch.faults.makeFile <|> failureOf ch.stdout.readAll.1 <|> ch.faults.exitStatus

variable {i : Nat} {ch : Channel} {u w : Surroundings τ} {k : Nat}

theorem exec_runBody (h : w.connection.channels[i]? = some ch) (command : String) :
    (exec (tryCatch (do
        Remote.call i (.exec command) (← Remote.channel i).faults.exec
        let bytes ← Remote.output i
        return (bytes, ← Remote.exitStatus i))
      fun f => throw (if f.isSsh || f.isSystem then .trouble (.notRun command f.text) else f) :
      Act τ (Bytes × Int)) w).1 = match runFailure ch with
        | some f => .error (if f.isSsh || f.isSystem then .trouble (.notRun command f.text) else f)
        | none => ch.stdout.readAll.1.map (·, ch.status) := by
  have hget : w.connection.channels[i]?.getD {} = ch := by rw [h]; rfl
  have hcarried : Carries i ch w := by rw [Carries, hget]
  have hstarted : ((Change.event (.channel i (.exec command))).apply w).connection.channels[i]? =
      some ch := h
  rw [exec_tryCatch, exec_bind, Remote.exec_channel, hget, runFailure]
  dsimp only
  rw [exec_bind, Remote.exec_call]
  cases ch.faults.exec with
  | some f => rfl
  | none =>
    dsimp only
    rw [exec_bind, Remote.exec_output hstarted]
    cases ch.faults.makeFile with
    | some f => rfl
    | none =>
      cases hread : ch.stdout.readAll.1 with
      | error f => rfl
      | ok bytes =>
        have hcarries : Carries i ch ((Change.channel i fun ch' =>
            { ch' with stdout := ch.stdout.readAll.2 }).apply
              ((Change.event (.channel i .makeFile)).apply
                ((Change.event (.channel i (.exec command))).apply w))) :=
          Carries.lasting _ (by exact fun _ => rfl) _ hcarried
        dsimp only
        rw [exec_bind, Remote.exec_exitStatus hcarries]
        cases ch.faults.exitStatus <;> rfl

theorem exists_output (h : runFailure ch = none) : ∃ bytes, ch.stdout.readAll.1 = .ok bytes := by
  cases hread : ch.stdout.readAll.1 with
  | ok bytes => exact ⟨bytes, rfl⟩
  | error f =>
    rw [runFailure, hread] at h
    cases he : ch.faults.exec <;> cases hm : ch.faults.makeFile <;>
      simp [he, hm, failureOf] at h

theorem run_result (session : Session) (hw : Continues u k w) (command : String)
    (hclose : (u.next k).faults.close = none) :
    (exec (session.run command) w).1 =
      if u.connection.isClosed then .error (.trouble (.closed session.host))
      else match (u.next k).refused with
        | some f => .error (if f.isSsh then .trouble (.noSession f.text) else f)
        | none => match runFailure (u.next k) with
          | some f =>
            .error (if f.isSsh || f.isSystem then .trouble (.notRun command f.text) else f)
          | none => if (u.next k).status = 0 then (u.next k).stdout.readAll.1
            else .error (.remoteCommand (.ran command) (u.next k).status) := by
  have hopen := exec_openChannel session hw
  rw [run, exec_bind, hopen]
  cases u.connection.isClosed with
  | true => rfl
  | false =>
    cases (u.next k).refused with
    | some f => rfl
    | none =>
      have hget : (asked (u.connection.channels.length + k) (u.next k) w).connection.channels[
          u.connection.channels.length + k]? = some (u.next k) := by
        simp [asked, Change.apply, ← hw.count]
      have hbody := exec_runBody hget command
      have hcarries := Carries.lasting.exec
        (runBody_within (u.connection.channels.length + k) command).toSession .refl
        (asked_continues (u.next k) hw).2
      have hresult := Remote.exec_tryFinally_close hcarries hclose
      rw [if_neg Bool.false_ne_true]
      dsimp only
      rw [exec_bind, hresult, hbody]
      cases hrun : runFailure (u.next k) with
      | some f => rfl
      | none =>
        obtain ⟨bytes, hbytes⟩ := exists_output hrun
        rw [hbytes]
        by_cases hzero : (u.next k).status = 0
        · simp [Except.map, hzero]
        · simp [Except.map, hzero]

theorem run_continues (session : Session) (hw : Continues u k w) {command : String}
    (hclose : (u.next k).faults.close = none) {bytes : Bytes} {t : Surroundings τ}
    (h : exec (session.run command) w = (.ok bytes, t)) : Continues u (k + 1) t := by
  rw [run, exec_bind] at h
  rcases e : exec session.openChannel w with ⟨f | i, v⟩ <;> rw [e] at h
  · simp at h
  · obtain ⟨-, hv, hcarries⟩ := opened_of_exec session hw e
    have hbody := Carries.lasting.exec (runBody_within i command).toSession .refl hcarries
    have hdone := Continues.lasting.exec (runBody_within i command).toSession .refl hv
    dsimp only at h
    rw [exec_bind, Remote.exec_tryFinally_close hbody hclose] at h
    split at h
    · rename_i result _ he
      obtain ⟨-, rfl⟩ := Prod.mk.inj he
      rcases result with ⟨output, status⟩
      by_cases hzero : status = 0
      · rw [if_neg (not_not.mpr hzero)] at h
        obtain ⟨-, rfl⟩ := Prod.mk.inj h
        exact Continues.lasting (.event (.channel i .close)) trivial _ hdone
      · simp [hzero] at h
    · simp at h

end Session

namespace Run

/-- What a lookup of the server side goes through; whatever is the client's own counts as a
failure of the configuration. -/
def lookupTrials (c : Connection τ) (ch : Channel) : List Trial :=
  [.check c.isClosed, .call ch.refused fun f => f.isSsh || f.isClient,
    .call (Session.runFailure ch) fun f => f.isSsh || f.isSystem || f.isClient,
    .check (ch.status ≠ 0),
    .check (ch.stdout.readAll.1.toOption.bind fun bs => lastWord? (Utf8.decodeLossy bs)).isNone]

def blamed : Failure → Failure
  | .remoteCommand r s => .configuration (.noServer (some (r.text s)))
  | f => f

theorem verdict_blamed (f : Failure) :
    verdict (blamed f) = if f.isClient then .ok exitFailure else verdict f := by
  cases f <;> rfl

theorem exec_findServer (run : String → Act τ Bytes) (w : Surroundings τ) :
    (exec (findServer run) w).1 = match (exec (run s!"command -v {serverName}") w).1 with
      | .error f => .error (blamed f)
      | .ok output => match lastWord? (Utf8.decodeLossy output) with
        | some word => .ok (String.ofList word)
        | none => .error (.configuration (.noServer none)) := by
  rw [findServer, exec_bind, exec_tryCatch]
  rcases exec (run s!"command -v {serverName}") w with ⟨f | output, t⟩
  · cases f <;> rfl
  · dsimp only
    cases lastWord? (Utf8.decodeLossy output) <;> rfl

theorem findServer_tried {u : Surroundings τ} {k : Nat} (session : Session)
    (hclose : (u.next k).faults.close = none) :
    Tried (Continues u k) (lookupTrials u.connection (u.next k)) (findServer session.run) := by
  intro w hw
  rw [exec_findServer, session.run_result hw _ hclose, lookupTrials]
  cases u.connection.isClosed with
  | true => exact Accounts.check_true rfl _
  | false =>
    rw [accounts_check_false, if_neg Bool.false_ne_true]
    cases (u.next k).refused with
    | some f =>
      apply Accounts.call_some
      rw [verdict_blamed]
      by_cases hs : f.isSsh
      · simp [hs, Failure.isClient]
      · simp [hs]
    | none =>
      rw [accounts_call_none]
      cases hrun : Session.runFailure (u.next k) with
      | some f =>
        apply Accounts.call_some
        rw [verdict_blamed]
        by_cases hs : f.isSsh || f.isSystem
        · simp [hs, Failure.isClient]
        · simp [hs]
      | none =>
        obtain ⟨bytes, hbytes⟩ := Session.exists_output hrun
        rw [accounts_call_none, hbytes]
        by_cases hzero : (u.next k).status = 0
        · simp only [if_pos hzero]
          rw [decide_eq_false (not_not.mpr hzero), accounts_check_false, Except.toOption,
            Option.bind_some]
          cases lastWord? (Utf8.decodeLossy bytes) with
          | none => exact Accounts.check_true rfl _
          | some word => rfl
        · simp only [if_neg hzero]
          rw [decide_eq_true hzero]
          exact Accounts.check_true rfl _

theorem findServer_continues {u w t : Surroundings τ} {k : Nat} (session : Session)
    (hclose : (u.next k).faults.close = none) (hw : Continues u k w) {path : String}
    (h : exec (findServer session.run) w = (.ok path, t)) : Continues u (k + 1) t := by
  rw [findServer, exec_bind, exec_tryCatch] at h
  rcases e : exec (session.run s!"command -v {serverName}") w with ⟨f | output, v⟩ <;> rw [e] at h
  · cases f <;> simp at h
  · have hv := session.run_continues hw hclose e
    dsimp only at h
    split at h
    · obtain ⟨-, rfl⟩ := Prod.mk.inj h
      exact hv
    · simp at h

end Run

end Tether
