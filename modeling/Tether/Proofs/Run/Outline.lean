import Tether.Proofs.Footprint.Run
import Tether.Proofs.Terminal.Mode

/-! # The outline of a run

What an invocation comes to, put together from what connecting, entering raw
mode and the session come to.
-/

namespace Tether

open Act Change

variable {τ α : Type}

namespace Run

def verdict (f : Failure) : Except Failure Int :=
  match f with
  | .remoteCommand _ status => .ok status
  | f => if f.isClient || f.isRandom then .ok exitFailure else .error f

def judged (f : Failure) (s : Surroundings τ) : Surroundings τ := (exec (statusOf f) s).2

theorem exec_statusOf (f : Failure) (s : Surroundings τ) :
    exec (statusOf f) s = (verdict f, judged f s) := by
  refine Prod.ext ?_ rfl
  cases f with
  | remoteCommand r status =>
    unfold statusOf verdict
    simp only [exec_bind, exec_log, exec_pure]
  | _ =>
    unfold statusOf verdict
    dsimp only
    split
    · simp only [exec_bind, exec_log, exec_pure]
    · rfl

theorem judged_cases (f : Failure) (s : Surroundings τ) :
    judged f s = s ∨ ∃ text, judged f s = s.logged loggerName .error text := by
  unfold judged
  cases f with
  | remoteCommand r status => exact .inr ⟨_, by simp only [statusOf, exec_bind, exec_log]; rfl⟩
  | _ =>
    unfold statusOf
    dsimp only
    split
    · exact .inr ⟨_, by simp only [exec_bind, exec_log]; rfl⟩
    · exact .inl rfl

theorem judged_connection (f : Failure) (s : Surroundings τ) :
    (judged f s).connection = s.connection := by
  obtain he | ⟨text, he⟩ := judged_cases f s <;> rw [he]
  exact s.logged_connection _ _ _

theorem judged_reaches (f : Failure) (s : Surroundings τ) : Reaches IsQuiet s (judged f s) := by
  obtain he | ⟨text, he⟩ := judged_cases f s <;> rw [he]
  · exact .refl s
  · apply Reaches.change (c := .log loggerName .error text)
    show loggerName ≠ Terminal.loggerName
    decide

def ended (s : Surroundings τ) : Surroundings τ := (Change.event .closeClient).apply s

def closing (r : Except Failure Int) (s : Surroundings τ) : Except Failure Int :=
  match s.connection.close with
  | none => r
  | some f => .error f

theorem exec_close (session : Session) (s : Surroundings τ) :
    exec session.close s = ((match s.connection.close with
      | none => .ok ()
      | some f => .error f), ended s) := by
  simp only [Session.close, exec_bind, exec_emit, exec_get]
  cases s.connection.close <;> rfl

def attempt (m : Means Float) (session : Session) (o : ClientOptions) : Act Float Int :=
  tryCatch
    (do
      Terminal.raw (inSession m session o (arguments o m.environment))
      return 0)
    statusOf

theorem exec_attempt (m : Means Float) (session : Session) (o : ClientOptions)
    (s : Surroundings Float) :
    exec (attempt m session o) s = match exec Terminal.enterRaw s with
      | (.error f, t) => (verdict f, judged f t)
      | (.ok _, t) => match exec (inSession m session o (arguments o m.environment)) t with
        | (.ok _, u) => (.ok 0, u.restored)
        | (.error f, u) => (verdict f, judged f u.restored) := by
  simp only [attempt, Terminal.raw, exec_tryCatch, exec_bind]
  rcases exec Terminal.enterRaw s with ⟨f | _, t⟩
  · simp only [exec_statusOf]
  · simp only [exec_tryFinally, Terminal.exec_restore]
    rcases exec (inSession m session o (arguments o m.environment)) t with ⟨f | _, u⟩
    · simp only [exec_statusOf]
    · rfl

theorem exec_client (m : Means Float) (o : ClientOptions) (s : Surroundings Float) :
    exec (client m o) s = match exec (m.connect o) s.captured with
      | (.error f, t) => (verdict f, (judged f t).restored)
      | (.ok session, t) => match exec (attempt m session o) t with
        | (r, u) => (closing r u, ended u.restored) := by
  simp only [client, exec_bind, Terminal.exec_capture, exec_tryCatch]
  rcases exec (m.connect o) s.captured with ⟨f | session, t⟩
  · simp only [exec_pure, exec_tryFinally, exec_statusOf, Terminal.exec_restore]
  · change exec (tryFinally (attempt m session o) (do Terminal.restore; session.close)) t = _
    simp only [exec_tryFinally, exec_bind, Terminal.exec_restore, exec_close]
    rcases exec (attempt m session o) t with ⟨r, u⟩
    simp only [Terminal.restored_connection, closing]
    cases u.connection.close <;> rfl

end Run

end Tether
