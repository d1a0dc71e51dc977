import Tether.Proofs.Run.Conclusion
import Mathlib.Data.Option.Basic

/-! # How a status is reported

A command that is run to its end on a channel of its own, beside one that is waited for. Both take
a status of zero for success and tell any other one, but for the status that stands for none: the
run takes it for a status like any other.
-/

namespace Tether

open Act Change

variable {τ α : Type}

namespace Remote

def told? : Except Failure α → Option Int
  | .ok _ => some 0
  | .error (.remoteCommand _ status) => some status
  | .error _ => none

theorem closeResult_bind {β : Type} (ch : Channel) (r : Except Failure α)
    (k : α → Except Failure β) : closeResult ch (r.bind k) = (closeResult ch r).bind k := by
  unfold closeResult
  cases ch.faults.close <;> rfl

theorem told?_wait (ch : Channel) (hanswers : ch.faults.exitStatus = none)
    (command : Option String) :
    told? (waitResult ch command) = if ch.status = -1 then none else some ch.status := by
  rw [waitResult, hanswers]
  dsimp only
  split
  case isTrue => rfl
  case isFalse =>
    split
    case isTrue hzero => rw [hzero, told?]
    case isFalse => rfl

end Remote

namespace Session

def runCalls (command : String) : List ChannelCall := [.exec command, .makeFile, .exitStatus]

def roundTrip (i : Nat) (calls : List ChannelCall) : List (Event τ) :=
  .openChannel i :: calls.map (.channel i) ++ [.channel i .close]

structure Granted (u : Surroundings τ) : Prop where
  isOpen : u.connection.isClosed = false
  accepted : (u.next 0).refused = none

/-- What became of a command that is run to its end, and the events of it. A channel that is
granted is closed last, whatever fails before. -/
inductive Ran (session : Session) (command : String) (u : Surroundings τ) :
    Except Failure Bytes → List (Event τ) → Prop
  | closed (hclosed : u.connection.isClosed) :
    Ran session command u (.error (.trouble (.closed session.host))) []
  | refused {f : Failure} (hopen : u.connection.isClosed = false)
    (hrefused : (u.next 0).refused = some f) :
    Ran session command u (.error (if f.isSsh then .trouble (.noSession f.text) else f))
      [.openChannel u.connection.channels.length]
  | broken {f : Failure} {calls : List ChannelCall} (hgranted : Granted u)
    (hfailure : runFailure (u.next 0) = some f) (hcalls : calls <+: runCalls command) :
    Ran session command u
      (Remote.closeResult (u.next 0)
        (.error (if f.isSsh || f.isSystem then .trouble (.notRun command f.text) else f)))
      (roundTrip u.connection.channels.length calls)
  | told (hgranted : Granted u) (hreached : runFailure (u.next 0) = none) :
    Ran session command u
      (Remote.closeResult (u.next 0) (if (u.next 0).status = 0 then (u.next 0).stdout.readAll.1
        else .error (.remoteCommand (.ran command) (u.next 0).status)))
      (roundTrip u.connection.channels.length (runCalls command))

/-- The channel that is opened next tells a status and fails at nothing. -/
structure Reports (u : Surroundings τ) : Prop extends Granted u where
  reached : runFailure (u.next 0) = none
  closes : (u.next 0).faults.close = none

variable {session : Session} {command : String} {i : Nat} {ch : Channel} {u w : Surroundings τ}

def runBody (i : Nat) (command : String) : Act τ (Bytes × Int) :=
  tryCatch (do
      Remote.call i (.exec command) (← Remote.channel i).faults.exec
      let bytes ← Remote.output i
      return (bytes, ← Remote.exitStatus i))
    fun f => throw (if f.isSsh || f.isSystem then .trouble (.notRun command f.text) else f)

/-- The calls on a channel are made in their order until one fails. -/
theorem runBody_events (h : w.connection.channels[i]? = some ch) (command : String) :
    ∃ calls, calls <+: runCalls command ∧ (runFailure ch = none → calls = runCalls command) ∧
      (exec (runBody i command) w).2.events = w.events ++ calls.map (.channel i) := by
  have hget : w.connection.channels[i]?.getD {} = ch := by rw [h]; rfl
  have hcarried : Carries i ch w := by rw [Carries, hget]
  have hstarted : ((Change.event (.channel i (.exec command))).apply w).connection.channels[i]? =
      some ch := h
  rw [runBody, exec_tryCatch, exec_bind, Remote.exec_channel, hget, runFailure]
  dsimp only
  rw [exec_bind, Remote.exec_call]
  cases ch.faults.exec with
  | some f => exact ⟨[.exec command], ⟨_, rfl⟩, fun hnone => (by cases hnone), rfl⟩
  | none =>
    dsimp only
    rw [exec_bind, Remote.exec_output hstarted]
    cases ch.faults.makeFile with
    | some f =>
      exact ⟨[.exec command, .makeFile], ⟨_, rfl⟩, fun hnone => (by cases hnone),
        by simp [Change.apply]⟩
    | none =>
      cases hread : ch.stdout.readAll.1 with
      | error f =>
        exact ⟨[.exec command, .makeFile], ⟨_, rfl⟩, fun hnone => (by cases hnone),
          by simp [Change.apply]⟩
      | ok bytes =>
        have hcarries : Carries i ch ((Change.channel i fun ch' =>
            { ch' with stdout := ch.stdout.readAll.2 }).apply
              ((Change.event (.channel i .makeFile)).apply
                ((Change.event (.channel i (.exec command))).apply w))) :=
          Carries.lasting _ (by exact fun _ => rfl) _ hcarried
        dsimp only
        rw [exec_bind, Remote.exec_exitStatus hcarries]
        refine ⟨runCalls command, List.prefix_rfl, fun _ => rfl, ?_⟩
        cases ch.faults.exitStatus <;> simp [Change.apply, runCalls]

theorem close_events (i : Nat) (w : Surroundings τ) :
    (exec (Remote.close i) w).2.events = w.events ++ [.channel i .close] := by
  rw [Remote.close, exec_bind, Remote.exec_channel]
  dsimp only
  rw [Remote.exec_call]
  rfl

/-- After the channel is closed nothing is left but to look at the status. -/
theorem exec_concluding {a : Act τ (Bytes × Int)} (h : Carries i ch (exec a w).2)
    (command : String) :
    let concluded := exec (do
      let (bytes, status) ← tryFinally a (Remote.close i)
      if status ≠ 0 then throw (.remoteCommand (.ran command) status)
      return bytes) w
    concluded.1 = Remote.closeResult ch ((exec a w).1.bind fun (bytes, status) =>
        if status = 0 then .ok bytes else .error (.remoteCommand (.ran command) status)) ∧
      concluded.2.events = (exec a w).2.events ++ [.channel i .close] := by
  have hresult := Remote.tryFinally_close_result h
  have hevents := congrArg Surroundings.events (exec_tryFinally_snd a (Remote.close i) w)
  rw [close_events] at hevents
  rw [exec_bind, Remote.closeResult_bind, ← hresult]
  rcases e : exec (tryFinally a (Remote.close i)) w with ⟨f | ⟨bytes, status⟩, t⟩ <;>
    rw [e] at hevents
  · exact ⟨rfl, hevents⟩
  · by_cases hzero : status = 0
    · simpa [Except.bind, hzero] using hevents
    · simpa [Except.bind, hzero] using hevents

theorem run_eq (session : Session) (command : String) :
    (session.run command : Act τ Bytes) = do
      let i ← session.openChannel
      let (bytes, status) ← tryFinally (runBody i command) (Remote.close i)
      if status ≠ 0 then throw (.remoteCommand (.ran command) status)
      return bytes := rfl

theorem run_ran (session : Session) (command : String) (u : Surroundings τ) :
    ∃ ns, Ran session command u (exec (session.run command) u).1 ns ∧
      (exec (session.run command) u).2.events = u.events ++ ns := by
  have hopen := exec_openChannel session (.refl u)
  rw [run_eq, exec_bind, hopen, Nat.add_zero]
  cases hclosed : u.connection.isClosed with
  | true => exact ⟨[], .closed hclosed, by simp⟩
  | false =>
    rw [if_neg Bool.false_ne_true]
    cases hrefused : (u.next 0).refused with
    | some f => exact ⟨_, .refused hclosed hrefused, rfl⟩
    | none =>
      have hget : (asked u.connection.channels.length (u.next 0) u).connection.channels[
          u.connection.channels.length]? = some (u.next 0) := by
        simp [asked, Change.apply]
      have hbody : (exec (runBody u.connection.channels.length command)
          (asked u.connection.channels.length (u.next 0) u)).1 = _ := exec_runBody hget command
      have hcarries : Carries u.connection.channels.length (u.next 0)
          (exec (runBody u.connection.channels.length command)
            (asked u.connection.channels.length (u.next 0) u)).2 :=
        Carries.lasting.exec (runBody_within u.connection.channels.length command).toSession .refl
          (asked_continues (u.next 0) (.refl u)).2
      obtain ⟨calls, hcalls, hall, hevents⟩ := runBody_events hget command
      obtain ⟨hresult, hclosing⟩ := exec_concluding hcarries command
      rw [hbody] at hresult
      dsimp only
      refine ⟨roundTrip u.connection.channels.length calls, ?_, ?_⟩
      · rw [hresult]
        cases hfailure : runFailure (u.next 0) with
        | some f => exact .broken ⟨hclosed, hrefused⟩ hfailure hcalls
        | none =>
          obtain ⟨bytes, hbytes⟩ := exists_output hfailure
          have htold : Ran session command u _ _ := .told ⟨hclosed, hrefused⟩ hfailure
          rw [hall hfailure]
          simp only [hbytes] at htold ⊢
          exact htold
      · rw [hclosing, hevents]
        simp [roundTrip, asked, Change.apply]

theorem Ran.countCloses_eq {r : Except Failure Bytes} {ns : List (Event τ)}
    (h : Ran session command u r ns) (hgranted : Granted u) :
    countCloses u.connection.channels.length ns = 1 := by
  have hround {calls : List ChannelCall} (hcalls : calls <+: runCalls command) :
      countCloses u.connection.channels.length
        (roundTrip u.connection.channels.length calls : List (Event τ)) = 1 := by
    have hother : .close ∉ calls := fun hclose => by
      have hmem := hcalls.subset hclose
      simp [runCalls] at hmem
    have hnone : countCloses u.connection.channels.length
        (calls.map (.channel u.connection.channels.length) : List (Event τ)) = 0 := by
      rw [countCloses, List.countP_map, List.countP_eq_zero]
      intro call hcall
      cases call with
      | close => exact absurd hcall hother
      | _ => simp
    rw [countCloses] at hnone
    simp [roundTrip, countCloses, hnone]
  cases h with
  | closed hclosed => simp [hgranted.isOpen] at hclosed
  | refused hopen hrefused => simp [hgranted.accepted] at hrefused
  | broken _ _ hcalls => exact hround hcalls
  | told => exact hround List.prefix_rfl

/-- A run that returns output has come to a status of zero. -/
theorem Ran.of_ok {r : Except Failure Bytes} {ns : List (Event τ)} {bytes : Bytes}
    (h : Ran session command u r ns) (hr : r = .ok bytes) :
    Reports u ∧ (u.next 0).status = 0 ∧ (u.next 0).stdout.readAll.1 = .ok bytes := by
  cases h with
  | closed => cases hr
  | refused => cases hr
  | broken =>
    unfold Remote.closeResult at hr
    split at hr <;> cases hr
  | told hgranted hreached =>
    unfold Remote.closeResult at hr
    split at hr
    case h_2 => cases hr
    case h_1 hcloses =>
      split at hr
      case isTrue hzero => exact ⟨⟨hgranted, hreached, hcloses⟩, hzero, hr⟩
      case isFalse => cases hr

/-- A command whose channel tells a status comes to that status. -/
theorem Reports.run (h : Reports u) (session : Session) (command : String) :
    (exec (session.run command) u).1 = if (u.next 0).status = 0 then (u.next 0).stdout.readAll.1
      else .error (.remoteCommand (.ran command) (u.next 0).status) := by
  rw [run_result session (.refl u) command h.closes, h.isOpen, if_neg Bool.false_ne_true,
    h.accepted, h.reached]

theorem Reports.exitStatus (h : Reports u) : (u.next 0).faults.exitStatus = none := by
  have hreached := h.reached
  simp only [runFailure, Option.orElse_eq_none] at hreached
  exact hreached.2.2.2

theorem Reports.told?_run (h : Reports u) (session : Session) (command : String) :
    Remote.told? (exec (session.run command) u).1 = some (u.next 0).status := by
  obtain ⟨bytes, hbytes⟩ := exists_output h.reached
  rw [h.run, hbytes]
  split
  case isTrue hzero => rw [hzero, Remote.told?]
  case isFalse => rfl

/-- A command that is run and one that is waited for tell the same status, but for the one that
stands for none: a run tells it, and keeps from its caller that the command came to no end. -/
theorem run_status (session : Session) (command : String) (u : Surroundings τ) :
    let ch := u.next 0
    let ran := exec (session.run command) u
    (∃ ns, Ran session command u ran.1 ns ∧ ran.2.events = u.events ++ ns ∧
        (Granted u → countCloses u.connection.channels.length ns = 1)) ∧
      (∀ bytes, ran.1 = .ok bytes ↔
        Reports u ∧ ch.status = 0 ∧ ch.stdout.readAll.1 = .ok bytes) ∧
      ∀ i (s : Surroundings τ), Carries i ch s →
        (∃ started, (exec (Remote.wait i) s).1 = Remote.waitResult ch started) ∧
          (Reports u → (Remote.told? ran.1 = Remote.told? (exec (Remote.wait i) s).1 ↔
            ch.status ≠ -1)) := by
  intro ch ran
  obtain ⟨ns, hran, hevents⟩ := run_ran session command u
  refine ⟨⟨ns, hran, hevents, hran.countCloses_eq⟩, fun bytes => ⟨hran.of_ok, ?_⟩,
    fun i s hs => ?_⟩
  · rintro ⟨hreports, hzero, hbytes⟩
    exact (hreports.run session command).trans ((if_pos hzero).trans hbytes)
  · obtain ⟨started, hwait⟩ := Remote.wait_result hs
    refine ⟨⟨started, hwait⟩, fun hreports => ?_⟩
    have hran : Remote.told? ran.1 = some ch.status := hreports.told?_run session command
    rw [hran, hwait, Remote.told?_wait ch hreports.exitStatus]
    split
    case isTrue hnone => simp [hnone]
    case isFalse hsome => simp [hsome]

def cutOff : Surroundings Nat where
  clock := 0
  connection := { script := fun _ => { status := -1 } }

theorem run_status_cutOff :
    let session : Session := { host := "testhost", port := 22 }
    Reports cutOff ∧ Carries 0 (cutOff.next 0) (exec session.openChannel cutOff).2 ∧
      (exec (session.run "true") cutOff).1 = .error (.remoteCommand (.ran "true") (-1)) ∧
      Remote.told? (exec (Remote.wait 0) (exec session.openChannel cutOff).2).1 = none := by
  intro session
  have hreports : Reports cutOff := ⟨⟨rfl, rfl⟩, rfl, rfl⟩
  have hcarries : Carries 0 (cutOff.next 0) (exec session.openChannel cutOff).2 := rfl
  obtain ⟨-, -, hwait⟩ := run_status session "true" cutOff
  obtain ⟨⟨started, hresult⟩, -⟩ := hwait 0 _ hcarries
  exact ⟨hreports, hcarries, hreports.run session "true", congrArg Remote.told? hresult⟩

end Session

end Tether
