import Tether.Proofs.Connect.Login
import Tether.Proofs.Footprint.Terminal
import Tether.Proofs.Run.Cleanup
import Tether.Proofs.Run.Session

/-! # Exit statuses

The trials of a whole run decide how it ends. A failure of the connection gets
past everything that is prepared for failures if no operation owns it.
-/

namespace Tether

open Act Change Trial

variable {τ α : Type}

namespace Connect

variable {o : ClientOptions}

def trials [Time τ] (o : ClientOptions) (prompt : Option (Path → Act τ String))
    (s : Surroundings τ) : List Trial :=
  match exec (prepare o prompt) s with
  | (.error f, _) => [.call (some f) fun _ => false]
  | (.ok (_, t, _), u) => [.call (loginFailure o t u) fun f => f.isSsh || f.isSystem]

theorem Completes.accounts {a : Address} {failure : Option Failure} {r : Except Failure Session}
    {closes : List (Event τ)} (h : Completes o a failure r closes) :
    Accounts [.call failure fun f => f.isSsh || f.isSystem] r := by
  cases h with
  | opened => rfl
  | @closed f h =>
    have h : (f.isSsh || f.isSystem) = true := h
    apply Accounts.call_some (g := .dial o.host o.port f.text)
    rw [if_pos h]
    rfl
  | @escaped f h =>
    have h : (f.isSsh || f.isSystem) = false := h
    apply Accounts.call_some (g := f)
    rw [h, if_neg Bool.false_ne_true]

theorem session_accounts [Time τ] (prompt : Option (Path → Act τ String)) (s : Surroundings τ) :
    Accounts (trials o prompt s) (exec (session o prompt) s).1 := by
  rw [session_eq, trials, exec_bind]
  rcases exec (prepare o prompt) s with ⟨f | ⟨key, t, a⟩, u⟩
  · rfl
  · obtain ⟨closes, hcompletes, -⟩ := enter_completes o key t a u
    exact hcompletes.accounts

end Connect

theorem Change.Reaches.connection_close {C : Change τ → Prop} {s t : Surroundings τ}
    (h : Reaches C s t) : t.connection.close = s.connection.close := by
  apply h.const fun s => s.connection.close
  intro c _ s
  cases c <;> simp [Change.apply]

namespace Terminal

def entryFailure (s : Surroundings τ) : Option Failure :=
  s.knownMode.bind fun _ => s.tty.obstacle <|> s.tty.rawFailure.map (.outside .system)

theorem enterRaw_accounts (s : Surroundings τ) :
    Accounts [.call (entryFailure s) fun _ => false] (exec enterRaw s).1 := by
  have htty : s.captured.tty = s.tty := by
    rw [Surroundings.captured_eq]
  rw [enterRaw, exec_bind, exec_capture, entryFailure, ← htty]
  cases s.knownMode with
  | none => rfl
  | some mode =>
    dsimp only
    rw [if_pos Option.isSome_some, Option.bind_some, exec_bind, exec_get]
    dsimp only
    rw [exec_bind, exec_emit]
    dsimp only
    cases s.captured.tty.obstacle with
    | some f => rfl
    | none => cases s.captured.tty.rawFailure <;> rfl

end Terminal

theorem Accounts.outcome_ok {ts : List Trial} {x : α}
    (h : Accounts ts (.ok x : Except Failure α)) (us : List Trial) :
    outcome (ts ++ us) = outcome us := by
  have h : firstEnd ts = none := h
  rw [outcome, firstEnd_append, h, Option.none_or]
  rfl

theorem Accounts.outcome_error {ts : List Trial} {f : Failure}
    (h : Accounts ts (.error f : Except Failure α)) (us : List Trial) :
    outcome (ts ++ us) = Run.verdict f := by
  have h : firstEnd ts = some (Run.verdict f) := h
  rw [outcome, firstEnd_append, h, Option.some_or]
  rfl

namespace Run

variable {m : Means Float} {o : ClientOptions}

theorem attempt_status (hdraws : DrawsRandom m) (session : Session) {s : Surroundings Float}
    (hcalm : Calm s) :
    (exec (attempt m session o) s).1 =
      outcome (.call (Terminal.entryFailure s) (fun _ => false) :: trials m o s) := by
  have hentry := Terminal.enterRaw_accounts s
  have hreached := Terminal.enterRaw_within.reaches .refl s
  rw [exec_attempt, ← List.singleton_append]
  rcases e : exec Terminal.enterRaw s with ⟨f | ⟨⟩, t⟩ <;> rw [e] at hentry hreached
  · exact (hentry.outcome_error _).symm
  · have ht : Continues s 0 t :=
      hreached.keeps _ (fun c hc => Continues.lasting c (OfEntry.opensNone hc)) (.refl s)
    have hinside := inSession_tried (o := o) hdraws hcalm session (arguments o m.environment) t ht
    rw [hentry.outcome_ok, ← List.append_nil (trials m o s)]
    dsimp only
    rcases e : exec (inSession m session o (arguments o m.environment)) t with ⟨f | ⟨⟩, u⟩ <;>
      rw [e] at hinside
    · exact (hinside.outcome_error []).symm
    · exact (hinside.outcome_ok []).symm

theorem attempt_close (hdraws : DrawsRandom m) (session : Session) (s : Surroundings Float) :
    (exec (attempt m session o) s).2.connection.close = s.connection.close := by
  have hentry := Reaches.connection_close (Terminal.enterRaw_within.reaches .refl s)
  rw [exec_attempt]
  rcases e : exec Terminal.enterRaw s with ⟨f | ⟨⟩, t⟩ <;> rw [e] at hentry
  · rw [judged_connection]
    exact hentry
  · have hinside := inSession_within m (fun _ _ => .of_eq) hdraws.within session o
      (arguments o m.environment)
    have hclose := (Reaches.connection_close (hinside.reaches (fun _ => rfl) t)).trans hentry
    dsimp only
    rcases e : exec (inSession m session o (arguments o m.environment)) t with ⟨f | ⟨⟩, u⟩ <;>
      rw [e] at hclose
    · rw [judged_connection, Terminal.restored_connection]
      exact hclose
    · rw [Terminal.restored_connection]
      exact hclose

/-- What connecting goes through. Of a connector that is not the client's own nothing is
known but how it ends. -/
inductive Connects (m : Means Float) (o : ClientOptions) (s : Surroundings Float) :
    List Trial → Prop
  | given : Connects m o s [.call (failureOf (exec (m.connect o) s).1) fun _ => false]
  | session (prompt : Option (Path → Act Float String))
    (h : m.connect o = Connect.session o prompt) :
    Connects m o s (Connect.trials o prompt s)

theorem Connects.accounts {s : Surroundings Float} {ts : List Trial} (h : Connects m o s ts) :
    Accounts ts (exec (m.connect o) s).1 := by
  cases h with
  | given => cases (exec (m.connect o) s).1 <;> rfl
  | session prompt h =>
    rw [h]
    exact Connect.session_accounts prompt s

/-- What a run goes through that has gone through these trials to connect. -/
def allTrials (m : Means Float) (o : ClientOptions) (ts : List Trial) (u : Surroundings Float) :
    List Trial :=
  ts ++ .call (Terminal.entryFailure u) (fun _ => false) :: trials m o u

/-- A run ends as the first trial makes it end that it does not stand. It ends with a status
unless that is a call whose failure no operation takes for its own. -/
theorem client_status (hnonce : m.makeNonce = Nonce.generate Program.randomBytes)
    {s : Surroundings Float} {ts : List Trial}
    (hconnects : Connects m o s.captured ts) (hcalm : Calm (exec (m.connect o) s.captured).2) :
    (exec (client m o) s).1 = outcome (allTrials m o ts (exec (m.connect o) s.captured).2) ∧
      ((∃ status, (exec (client m o) s).1 = .ok status) ↔ ∀ before f owned after,
        allTrials m o ts (exec (m.connect o) s.captured).2 =
          before ++ .call (some f) owned :: after → firstEnd before = none →
            owned f ∨ ∃ status, verdict f = .ok status) := by
  have hresult : (exec (client m o) s).1 =
      outcome (allTrials m o ts (exec (m.connect o) s.captured).2) := by
    have haccounts := hconnects.accounts
    rw [exec_client, allTrials]
    rcases e : exec (m.connect o) s.captured with ⟨f | session, t⟩ <;> rw [e] at haccounts hcalm
    · exact (haccounts.outcome_error _).symm
    · have hstatus := attempt_status (o := o) (.of_eq hnonce) session hcalm
      have hclose := (attempt_close (o := o) (.of_eq hnonce) session t).trans hcalm.close
      rw [haccounts.outcome_ok, ← hstatus]
      dsimp only
      rcases e : exec (attempt m session o) t with ⟨r, u⟩
      rw [e] at hclose
      dsimp only at hclose ⊢
      rw [closing, hclose]
  rw [hresult]
  exact ⟨rfl, outcome_eq_ok_iff⟩

def plain : Means Float where
  connect o := pure ⟨o.host, o.port⟩
  makeNonce := Nonce.generate Program.randomBytes
  environment := [("CPU_NAMESPACE", "")]

def severed : Surroundings Float where
  clock := 0
  connection := { script := fun _ =>
    { faults := { exec := some (.outside .system "Socket is closed") } } }

theorem client_status_severed :
    plain.makeNonce = Nonce.generate Program.randomBytes ∧
      Connects plain { host := "far", keyFile := {} } severed.captured
        [.call none fun _ => false] ∧
      Calm severed.captured ∧
      (exec (client plain { host := "far", keyFile := {} }) severed).1 =
        .error (.outside .system "Socket is closed") := by
  have hcalm : Calm severed.captured := ⟨rfl, fun _ => rfl, rfl⟩
  have hconnects : Connects plain { host := "far", keyFile := {} } severed.captured
      [.call none fun _ => false] := .given
  have hstatus := (client_status rfl hconnects hcalm).1
  exact ⟨rfl, hconnects, hcalm, hstatus⟩

end Run

end Tether
