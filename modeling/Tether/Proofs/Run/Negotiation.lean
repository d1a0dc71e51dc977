import Tether.Proofs.Namespace.Admission
import Tether.Proofs.Run.Tunnel

/-! # What becomes of the listener

A listener that the remote host has opened is closed if its address names no port, and is given to
one gate if it names one and there is a server to put behind it. A server that cannot be loaded is
the third case: the listener is neither closed nor given to anyone.
-/

namespace Tether

variable {τ : Type}

open Act

namespace Change

inductive IsPreparing : Change τ → Prop
  | announce (level : Level) (text : String) : IsPreparing (.log Tunnel.loggerName level text)
  | finding {c : Change τ} (h : IsFinding c) : IsPreparing c

end Change

theorem Adds.preparing {s t : Surroundings τ} (h : Reaches Change.IsPreparing s t) :
    Adds s t [] [] [] := by
  refine h.keeps (Adds s · [] [] []) (fun c hc u hu => hu.after ?_) (.refl s)
  rcases hc with _ | ⟨_ | _ | _⟩ <;> constructor <;>
    simp [Change.apply, Surroundings.servings, Surroundings.closings, Surroundings.listenerClosings]

namespace FileShare

section

variable (s : Surroundings τ) (logger : String) (level : Level) (text : String)

@[simp] theorem loadFailure_logged : loadFailure (s.logged logger level text) = loadFailure s := by
  simp [loadFailure]

@[simp] theorem found_logged : found (s.logged logger level text) = found s := by
  simp [found]

end

end FileShare

namespace Tunnel

variable [Time τ]

/-- What becomes of a listener that was opened, and what is answered. -/
inductive Fate (gate : FileShare τ → Gate τ) (share : Option (FileShare τ)) (l : Listener τ)
    (t : Surroundings τ) : Except Failure String × Surroundings τ → Prop
  /-- It is closed, as its address names no port. -/
  | closed {r : Except Failure Unit} {u : Surroundings τ}
    (unnamed : ∀ port, ¬ IsPortOf l.address port) (closes : exec l.close t = (r, u)) :
    Fate gate share l t (.error (match r with
      | .ok _ => .tunnel (.noPort l.address)
      | .error f => f), u)
  /-- It is neither closed nor given to a gate, as the server cannot be loaded. -/
  | left {port : String} {f : Failure} {u : Surroundings τ} (named : IsPortOf l.address port)
    (sought : share = none) (fails : FileShare.loadFailure t = some f)
    (idle : Reaches Change.IsPreparing t u) : Fate gate share l t (.error f, u)
  /-- One gate is started on it. -/
  | served {port : String} {u v : Surroundings τ} (named : IsPortOf l.address port)
    (loads : share = none → FileShare.loadFailure t = none)
    (idle : Reaches Change.IsPreparing t u)
    (runs : exec (Act.thread "cpu-namespace" do
      let _ ← (gate (share.getD (FileShare.found t))).run l) u = (.ok (), v)) :
    Fate gate share l t (.ok port, v)

section

variable {gate : FileShare τ → Gate τ} {share : Option (FileShare τ)} {l : Listener τ}
  {t u : Surroundings τ} {port : String}

theorem Fate.of_thread (named : IsPortOf l.address port)
    (loads : share = none → FileShare.loadFailure t = none)
    (idle : Reaches Change.IsPreparing t u) :
    Fate gate share l t (exec (do
      Act.thread "cpu-namespace" do
        let _ ← (gate (share.getD (FileShare.found t))).run l
      return port) u) := by
  obtain ⟨v, hruns⟩ := thread_ok "cpu-namespace"
    (do let _ ← (gate (share.getD (FileShare.found t))).run l) u
  rw [exec_bind, hruns]
  exact .served named loads idle hruns

/-- Once the port is known, one gate is started unless the server cannot be loaded. -/
theorem serve_fate (named : IsPortOf l.address port) (idle : Reaches Change.IsPreparing t u)
    (hload : FileShare.loadFailure u = FileShare.loadFailure t)
    (hfound : FileShare.found u = FileShare.found t) :
    Fate gate share l t (exec (do
      let share ← match share with
        | some s => pure s
        | none => FileShare.find none
      Act.thread "cpu-namespace" do
        let _ ← (gate share).run l
      return port) u) := by
  cases share with
  | some server => exact .of_thread named (by simp) idle
  | none =>
    have hfind := FileShare.find_result u
    have hfinding := (FileShare.find_finding none).reaches .refl u
    rw [hload, hfound] at hfind
    dsimp only
    rw [exec_bind]
    rcases hexec : exec (FileShare.find none) u with ⟨r, v⟩
    rw [hexec] at hfind hfinding
    obtain rfl : r = _ := hfind
    have hidle := idle.trans (hfinding.mono fun _ => .finding)
    cases hfails : FileShare.loadFailure t with
    | some f => exact .left named rfl hfails hidle
    | none => exact .of_thread named (fun _ => hfails) hidle

end

/-- A listener that was opened is closed, or one gate is started on it, or it is left open for
want of a server that can be loaded. -/
theorem negotiate_fate (listen : String → Act τ (Listener τ)) (root : Path) (nonce : Nonce)
    (deadline : τ) (share : Option (FileShare τ)) (requested : Int) {l : Listener τ}
    {s t : Surroundings τ} (h : exec (listen s!"{loopback}:{requested}") s = (.ok l, t)) :
    Fate (fun share => { share, root, nonce, deadline }) share l t
      (exec (negotiate listen root nonce deadline share requested) s) := by
  rw [negotiate, exec_bind, h]
  dsimp only
  rw [exec_bind, exec_tryCatch, exec_lift]
  cases hport : parsePort l.address with
  | error f =>
    obtain ⟨rfl, hunnamed⟩ := parsePort_eq_error hport
    rcases hclose : exec l.close t with ⟨f | ⟨⟩, u⟩ <;> simp only [exec_bind, hclose]
    · exact .closed hunnamed hclose
    · exact .closed hunnamed hclose
  | ok port =>
    have hnamed := parsePort_eq_ok_iff.mp hport
    have hannounce (text : String) :
        Reaches Change.IsPreparing t (t.logged loggerName .debug text) :=
      .change (Change.IsPreparing.announce .debug text) t
    dsimp only
    rw [exec_bind, exec_log]
    exact serve_fate hnamed (hannounce _) (by simp) (by simp)

def opening (l : Listener τ) (address : String) : Act τ (Listener τ) := do
  emit (.listen address)
  return l

def broken : Surroundings ℚ where
  clock := 0
  shares := [{
    name := FileShare.defaultName
    value := "module:Server"
    failure := some (.outside .runtime "import failed") }]

theorem negotiate_fate_broken :
    exec (opening Gate.arriving s!"{loopback}:{0}") broken =
        (.ok Gate.arriving, (Change.event (.listen s!"{loopback}:{0}")).apply broken) ∧
      ∃ u, exec (negotiate (opening Gate.arriving) { root := "/" } ⟨"ab"⟩ 10 none 0) broken =
          (.error (.outside .runtime "import failed"), u) ∧
        u.listenerClosings = 0 ∧ u.accepted = [] := by
  have hopened : exec (opening Gate.arriving s!"{loopback}:{0}") broken =
      (.ok Gate.arriving, (Change.event (.listen s!"{loopback}:{0}")).apply broken) := rfl
  have hnamed : IsPortOf Gate.arriving.address "4000" := ⟨⟨loopback, rfl⟩, by decide, by decide⟩
  have hload : FileShare.loadFailure ((Change.event (.listen s!"{loopback}:{0}")).apply broken) =
      some (.outside .runtime "import failed") := rfl
  have hfate := negotiate_fate (opening Gate.arriving) { root := "/" } ⟨"ab"⟩ 10 none 0 hopened
  generalize exec (negotiate _ _ _ _ _ _) broken = r at hfate
  refine ⟨hopened, ?_⟩
  cases hfate with
  | closed unnamed => exact absurd hnamed (unnamed _)
  | @left port f u named sought fails idle =>
    have hidle := Adds.preparing idle
    obtain rfl : f = _ := Option.some.inj (fails.symm.trans hload)
    exact ⟨u, rfl, hidle.listener, hidle.accepted⟩
  | served named loads => exact absurd (hload.symm.trans (loads rfl)) (by simp)

end Tunnel

end Tether
