import Tether.Proofs.Run.Channels
import Tether.Proofs.Run.Outline

/-! # Trials

A run goes through trials one after the other. The first that it does not stand
ends it: with a status, if the client takes the failure for its own or knows the
status of the remote command, and otherwise with the failure itself.
-/

namespace Tether

open Act Change

variable {τ α β : Type}

inductive Trial
  /-- A check that the client makes; its failure is one of the client's own. -/
  | check (fails : Bool)
  /-- A call that may fail, and the failures that the client takes for its own. -/
  | call (failure : Option Failure) (owned : Failure → Bool)
  /-- The status that the remote command reports; -1 stands for none. -/
  | report (status : Int)

namespace Trial

def ends : Trial → Option (Except Failure Int)
  | check fails => if fails then some (.ok exitFailure) else none
  | call failure owned => failure.map fun f => if owned f then .ok exitFailure else Run.verdict f
  | report status =>
    if status = 0 then none else some (.ok (if status = -1 then exitFailure else status))

def firstEnd (ts : List Trial) : Option (Except Failure Int) := ts.findSome? ends

def outcome (ts : List Trial) : Except Failure Int := (firstEnd ts).getD (.ok 0)

theorem firstEnd_append (ts us : List Trial) :
    firstEnd (ts ++ us) = (firstEnd ts).or (firstEnd us) :=
  List.findSome?_append

/-- The run ends with a status unless the first call that fails does so in a way that is
nobody's own. -/
theorem outcome_eq_ok_iff {ts : List Trial} :
    (∃ status, outcome ts = .ok status) ↔ ∀ before f owned after,
      ts = before ++ .call (some f) owned :: after → firstEnd before = none →
        owned f ∨ ∃ status, Run.verdict f = .ok status := by
  have hfirst (before : List Trial) (t : Trial) (after : List Trial) (h : firstEnd before = none) :
      firstEnd (before ++ t :: after) = t.ends.or (firstEnd after) := by
    rw [firstEnd_append, h, Option.none_or, firstEnd, List.findSome?_cons]
    cases t.ends <;> rfl
  constructor
  · rintro ⟨status, h⟩ before f owned after rfl hbefore
    rw [outcome, hfirst _ _ _ hbefore] at h
    by_cases ho : owned f
    · exact .inl ho
    · exact .inr ⟨status, by simpa [ends, ho] using h⟩
  · intro h
    cases he : firstEnd ts with
    | none => exact ⟨0, by rw [outcome, he]; rfl⟩
    | some r =>
      obtain ⟨before, t, after, rfl, ht, hbefore⟩ := List.findSome?_eq_some_iff.mp he
      have hnone : firstEnd before = none := List.findSome?_eq_none_iff.mpr hbefore
      rw [outcome, he, Option.getD_some]
      cases t with
      | check fails =>
        cases fails with
        | false => simp [ends] at ht
        | true => exact ⟨_, by simpa [ends] using ht.symm⟩
      | report status =>
        by_cases hs : status = 0
        · simp [ends, hs] at ht
        · exact ⟨_, by simpa [ends, hs] using ht.symm⟩
      | call failure owned =>
        cases failure with
        | none => simp [ends] at ht
        | some f =>
          obtain ho | ⟨status, hf⟩ := h before f owned after rfl hnone
          · exact ⟨_, by simpa [ends, ho] using ht.symm⟩
          · by_cases ho : owned f
            · exact ⟨_, by simpa [ends, ho] using ht.symm⟩
            · exact ⟨status, by simpa [ends, ho, hf] using ht.symm⟩

end Trial

open Trial

/-- A result that comes of standing the trials or of not standing one of them. -/
def Accounts (ts : List Trial) : Except Failure α → Prop
  | .ok _ => firstEnd ts = none
  | .error f => firstEnd ts = some (Run.verdict f)

namespace Act

/-- Wherever the condition holds, the action has these trials. -/
def Tried (P : Surroundings τ → Prop) (ts : List Trial) (a : Act τ α) : Prop :=
  ∀ s, P s → Accounts ts (exec a s).1

namespace Tried

variable {P : Surroundings τ → Prop} {ts us : List Trial}

theorem pure (x : α) : Tried P [] (Pure.pure x : Act τ α) := fun _ _ => rfl

theorem map {a : Act τ α} (g : α → β) (h : Tried P ts a) : Tried P ts (do return g (← a)) := by
  intro s hs
  have ha := h s hs
  rw [exec_bind]
  rcases e : exec a s with ⟨f | x, t⟩ <;> rw [e] at ha <;> exact ha

theorem bind {a : Act τ α} {k : α → Act τ β} {Q : α → Surroundings τ → Prop} (h : Tried P ts a)
    (hQ : ∀ s, P s → ∀ x t, exec a s = (.ok x, t) → Q x t) (hk : ∀ x, Tried (Q x) us (k x)) :
    Tried P (ts ++ us) (a >>= k) := by
  intro s hs
  have ha := h s hs
  rw [exec_bind]
  rcases e : exec a s with ⟨f | x, t⟩ <;> rw [e] at ha
  · have ha : firstEnd ts = some (Run.verdict f) := ha
    show firstEnd (ts ++ us) = some (Run.verdict f)
    rw [firstEnd_append, ha, Option.some_or]
  · have ha : firstEnd ts = none := ha
    have hx := hk x t (hQ s hs x t e)
    dsimp only
    rcases e' : exec (k x) t with ⟨g | y, v⟩ <;> rw [e'] at hx
    · have hx : firstEnd us = some (Run.verdict g) := hx
      show firstEnd (ts ++ us) = some (Run.verdict g)
      rw [firstEnd_append, ha, hx, Option.none_or]
    · have hx : firstEnd us = none := hx
      show firstEnd (ts ++ us) = none
      rw [firstEnd_append, ha, hx, Option.none_or]

end Tried

end Act

namespace Change

def OpensNone : Change τ → Prop
  | .openChannel _ => False
  | .channel _ f => ∀ c, (f c).nature = c.nature
  | _ => True

theorem IsQuiet.opensNone {c : Change τ} (h : c.IsQuiet) : c.OpensNone := by
  cases c with
  | openChannel => exact h.elim
  | channel => exact h
  | _ => trivial

theorem OfEntry.opensNone {c : Change τ} (h : c.OfEntry) : c.OpensNone := by
  cases h <;> trivial

end Change

/-- As many channels as that were opened since, and nothing else has changed that a run
depends on. -/
structure Continues (u : Surroundings τ) (k : Nat) (s : Surroundings τ) : Prop where
  environment : s.environment = u.environment
  window : s.window = u.window
  random : s.random = u.random
  shares : s.shares = u.shares
  connection : s.connection = { u.connection with
    channels := s.connection.channels, forwardings := s.connection.forwardings }
  count : s.connection.channels.length = u.connection.channels.length + k

def Carries (i : Nat) (ch : Channel) (s : Surroundings τ) : Prop :=
  (s.connection.channels[i]?.getD {}).nature = ch.nature

def Lasting (P : Surroundings τ → Prop) : Prop := ∀ c, OpensNone c → ∀ s, P s → P (c.apply s)

section

variable {u s : Surroundings τ} {k i : Nat} {ch : Channel} {P : Surroundings τ → Prop}
  {V : Surroundings τ → Surroundings τ → Prop} {a : Act τ α}

theorem Lasting.exec (hP : Lasting P) (ha : Within V IsQuiet a) (hV : ∀ s, V s s) (hs : P s) :
    P (exec a s).2 :=
  (ha.reaches hV s).keeps P (fun c hc => hP c hc.opensNone) hs

theorem Continues.refl (u : Surroundings τ) : Continues u 0 u :=
  ⟨rfl, rfl, rfl, rfl, rfl, rfl⟩

theorem Continues.lasting : Lasting (Continues u k) := by
  intro c hc s hs
  obtain ⟨henvironment, hwindow, hrandom, hshares, hconnection, hcount⟩ := hs
  cases c with
  | openChannel => exact hc.elim
  | log =>
    rw [Change.apply, Surroundings.logged_eq]
    exact ⟨henvironment, hwindow, hrandom, hshares, hconnection, hcount⟩
  | channel i f =>
    refine ⟨henvironment, hwindow, hrandom, hshares, ?_, ?_⟩
    · rw [Change.apply, hconnection]
    · rwa [Change.apply, List.length_modify]
  | forwardings f =>
    refine ⟨henvironment, hwindow, hrandom, hshares, ?_, hcount⟩
    rw [Change.apply, hconnection]
  | _ => exact ⟨henvironment, hwindow, hrandom, hshares, hconnection, hcount⟩

theorem Carries.lasting : Lasting (Carries i ch : Surroundings τ → Prop) := by
  intro c hc s hs
  cases c with
  | openChannel => exact hc.elim
  | log =>
    rw [Change.apply, Carries, Surroundings.logged_connection]
    exact hs
  | channel j f =>
    rw [Carries, Change.apply, List.getElem?_modify]
    rw [Carries] at hs
    cases hd : s.connection.channels[i]? with
    | none => rwa [hd] at hs
    | some d =>
      rw [hd] at hs
      split
      · exact (hc d).trans hs
      · exact hs
  | _ => exact hs

theorem Continues.opened (h : Continues u k s) :
    Continues u (k + 1) ((Change.openChannel ch).apply s) ∧
      Carries (u.connection.channels.length + k) ch ((Change.openChannel ch).apply s) := by
  constructor
  · refine ⟨h.environment, h.window, h.random, h.shares, ?_, ?_⟩
    · rw [Change.apply, h.connection]
    · rw [Change.apply, List.length_append, h.count]
      rfl
  · rw [Carries, Change.apply, ← h.count]
    simp

theorem Carries.faults (h : Carries i ch s) :
    (s.connection.channels[i]?.getD {}).faults = ch.faults :=
  show (Channel.nature _).faults = ch.nature.faults by rw [h]

theorem Carries.number (h : Carries i ch s) :
    (s.connection.channels[i]?.getD {}).number = ch.number :=
  show (Channel.nature _).number = ch.nature.number by rw [h]

theorem Carries.status (h : Carries i ch s) :
    (s.connection.channels[i]?.getD {}).status = ch.status :=
  show (Channel.nature _).status = ch.nature.status by rw [h]

end

namespace Act

theorem Tried.quiet {P : Surroundings τ → Prop} {ts us : List Trial} {a : Act τ α}
    {k : α → Act τ β} {V : Surroundings τ → Surroundings τ → Prop} (h : Tried P ts a)
    (hP : Lasting P) (ha : Within V IsQuiet a) (hV : ∀ s, V s s) (hk : ∀ x, Tried P us (k x)) :
    Tried P (ts ++ us) (a >>= k) := by
  apply h.bind _ hk
  intro s hs x t e
  have hkept := hP.exec ha hV hs
  rwa [e] at hkept

theorem Tried.of_ok {P : Surroundings τ → Prop} {a : Act τ α}
    (h : ∀ s, P s → ∃ x t, exec a s = (.ok x, t)) : Tried P [] a := by
  intro s hs
  obtain ⟨x, t, e⟩ := h s hs
  rw [e]
  rfl

theorem Tried.exists_ok {P : Surroundings τ → Prop} {ts : List Trial} {a : Act τ α}
    (h : Tried P ts a) (hts : firstEnd ts = none) {s : Surroundings τ} (hs : P s) :
    ∃ x t, exec a s = (.ok x, t) := by
  have ha := h s hs
  rcases e : exec a s with ⟨f | x, t⟩ <;> rw [e] at ha
  · have ha : firstEnd ts = some (Run.verdict f) := ha
    simp [hts] at ha
  · exact ⟨x, t, rfl⟩

end Act

end Tether
