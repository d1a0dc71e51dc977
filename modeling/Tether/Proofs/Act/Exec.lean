import Tether.Surroundings.Basic

/-! # Running an action

What an action comes to in given surroundings: a result, and the surroundings
that it leaves. Every way of composing actions has one law.
-/

namespace Tether.Act

variable {τ α β : Type}

/-- The result of an action and the surroundings that it leaves. -/
def exec (a : Act τ α) (s : Surroundings τ) : Except Failure α × Surroundings τ :=
  (ExceptT.run a).run s

@[simp] theorem exec_pure (x : α) (s : Surroundings τ) : exec (pure x) s = (.ok x, s) := rfl

@[simp] theorem exec_throw (f : Failure) (s : Surroundings τ) :
    exec (throw f : Act τ α) s = (.error f, s) := rfl

@[simp] theorem exec_get (s : Surroundings τ) : exec (get : Act τ _) s = (.ok s, s) := rfl

@[simp] theorem exec_modify (f : Surroundings τ → Surroundings τ) (s : Surroundings τ) :
    exec (modify f : Act τ _) s = (.ok (), f s) := rfl

@[simp] theorem throw_bind (f : Failure) (k : α → Act τ β) : (throw f >>= k) = throw f := rfl

theorem exec_bind (a : Act τ α) (k : α → Act τ β) (s : Surroundings τ) :
    exec (a >>= k) s = match exec a s with
      | (.ok x, t) => exec (k x) t
      | (.error f, t) => (.error f, t) := by
  rcases h : exec a s with ⟨_ | _, t⟩ <;>
    simp only [exec, bind, ExceptT.bind, ExceptT.mk, ExceptT.run, StateT.bind, StateT.run]
      at h ⊢
  · simp only [h, ExceptT.bindCont]
    rfl
  · simp only [h, ExceptT.bindCont]

theorem exec_map (g : α → β) (a : Act τ α) (s : Surroundings τ) :
    exec (g <$> a) s = ((exec a s).1.map g, (exec a s).2) := by
  rcases h : exec a s with ⟨_ | _, t⟩ <;>
    simp only [map_eq_pure_bind, exec_bind, h] <;> rfl

theorem exec_tryCatch (a : Act τ α) (h : Failure → Act τ α) (s : Surroundings τ) :
    exec (tryCatch a h) s = match exec a s with
      | (.ok x, t) => (.ok x, t)
      | (.error f, t) => exec (h f) t := by
  rcases e : exec a s with ⟨_ | _, t⟩ <;>
    simp only [exec, tryCatch, tryCatchThe, MonadExceptOf.tryCatch, ExceptT.tryCatch, ExceptT.mk,
      ExceptT.run, StateT.run, bind, StateT.bind] at e ⊢
  · simp only [e]
  · simp only [e]
    rfl

theorem exec_tryFinally (a : Act τ α) (b : Act τ β) (s : Surroundings τ) :
    exec (tryFinally a b) s = match exec a s with
      | (r, t) => match exec b t with
        | (.ok _, u) => (r, u)
        | (.error f, u) => (.error f, u) := by
  rcases e : exec a s with ⟨_ | _, t⟩ <;> rcases e' : exec b t with ⟨_ | _, u⟩ <;>
    simp only [exec, tryFinally, tryFinally', ExceptT.mk, ExceptT.run, StateT.run, bind,
      StateT.bind, Functor.map, ExceptT.map] at e e' ⊢ <;>
    simp only [e, e'] <;> rfl

/-- The last part of an action is done whatever becomes of the first. -/
theorem exec_tryFinally_snd (a : Act τ α) (b : Act τ β) (s : Surroundings τ) :
    (exec (tryFinally a b) s).2 = (exec b (exec a s).2).2 := by
  rw [exec_tryFinally]
  rcases exec a s with ⟨r, t⟩
  dsimp only
  rcases exec b t with ⟨_ | _, u⟩ <;> rfl

theorem exec_ite {c : Prop} [Decidable c] (a b : Act τ α) (s : Surroundings τ) :
    exec (if c then a else b) s = if c then exec a s else exec b s := by
  split <;> rfl

@[simp] theorem exec_emit (e : Event τ) (s : Surroundings τ) :
    exec (emit e) s = (.ok (), { s with events := s.events ++ [e] }) := rfl

@[simp] theorem exec_now (s : Surroundings τ) : exec now s = (.ok s.clock, s) := rfl

@[simp] theorem exec_wait [Time τ] (span : τ) (s : Surroundings τ) :
    exec (wait span) s = (.ok (), { s with clock := s.clock + span }) := rfl

@[simp] theorem exec_failIf_none (s : Surroundings τ) : exec (failIf none) s = (.ok (), s) := rfl

@[simp] theorem exec_failIf_some (f : Failure) (s : Surroundings τ) :
    exec (failIf (some f)) s = (.error f, s) := rfl

@[simp] theorem exec_lift (r : Except Failure α) (s : Surroundings τ) :
    exec (lift r) s = (r, s) := by
  cases r <;> rfl

end Tether.Act

namespace Tether.Surroundings

variable {τ : Type} (s : Surroundings τ) (logger : String) (level : Level) (text : String)

def logged : Surroundings τ := (Act.exec (Act.log logger level text) s).2

theorem logged_def : s.logged logger level text =
    let r : LogRecord := ⟨displayName logger, level, text⟩
    if s.log.threshold logger ≤ level.rank then
      match s.log.outlet with
      | .records => { s with log := { s.log with records := s.log.records ++ [r] } }
      | .terminal named =>
        { s with stderr := (s.stderr.call (.print (r.terminalText named))).2 }
      | .dump => { s with log := Act.dump s.log (r.dumpText s.log.stamp) }
    else s := by
  simp only [logged, Act.log, Act.exec_bind, Act.exec_get]
  split
  · cases s.log.outlet <;> rfl
  · rfl

theorem logged_eq : s.logged logger level text =
    { s with log := (s.logged logger level text).log
             stderr := (s.logged logger level text).stderr } := by
  rw [logged_def]
  dsimp only
  split
  · split <;> rfl
  · rfl

@[simp] theorem logged_clock : (s.logged logger level text).clock = s.clock := by rw [logged_eq]
@[simp] theorem logged_events : (s.logged logger level text).events = s.events := by rw [logged_eq]
@[simp] theorem logged_environment : (s.logged logger level text).environment = s.environment := by
  rw [logged_eq]
@[simp] theorem logged_window : (s.logged logger level text).window = s.window := by rw [logged_eq]
@[simp] theorem logged_tty : (s.logged logger level text).tty = s.tty := by rw [logged_eq]
@[simp] theorem logged_terminal : (s.logged logger level text).terminal = s.terminal := by
  rw [logged_eq]
@[simp] theorem logged_signals : (s.logged logger level text).signals = s.signals := by
  rw [logged_eq]
@[simp] theorem logged_connection : (s.logged logger level text).connection = s.connection := by
  rw [logged_eq]
@[simp] theorem logged_shares : (s.logged logger level text).shares = s.shares := by rw [logged_eq]
@[simp] theorem logged_served : (s.logged logger level text).served = s.served := by rw [logged_eq]
@[simp] theorem logged_random : (s.logged logger level text).random = s.random := by
  rw [logged_eq]
@[simp] theorem logged_accepted : (s.logged logger level text).accepted = s.accepted := by
  rw [logged_eq]

end Tether.Surroundings

namespace Tether.Act

variable {τ : Type}

@[simp] theorem exec_log (logger : String) (level : Level) (text : String) (s : Surroundings τ) :
    exec (log logger level text) s = (.ok (), s.logged logger level text) := by
  refine Prod.ext ?_ rfl
  simp only [log, exec_bind, exec_get, exec_ite]
  split
  · split <;> rfl
  · rfl

end Tether.Act
