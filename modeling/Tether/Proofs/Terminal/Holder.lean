import Tether.Proofs.Terminal.Mode

/-! # Holding the mode of a terminal

However the holder of a terminal's mode is used, and whatever fails on the way, it keeps the mode
that it found first. That mode is put back at most once for each time that raw mode was entered.
Where there is no terminal nothing is done.
-/

namespace Tether

open Act

variable {τ : Type}

namespace Event

def putsMode : Event τ → Bool
  | .putMode _ _ => true
  | _ => false

end Event

namespace Terminal

structure Faults where
  raw : Option String := none
  obstacle : Option Failure := none
  restore : Option String := none

end Terminal

def Surroundings.withFaults (s : Surroundings τ) (f : Terminal.Faults) : Surroundings τ :=
  { s with tty := { s.tty with
      rawFailure := f.raw, obstacle := f.obstacle, restoreFailure := f.restore } }

namespace Terminal

/-- A program that uses the holder. -/
inductive Use
  | done
  | faults (f : Faults)
  | capture
  | enterRaw
  | restore
  | fail (f : Failure)
  /-- The second is left out if the first fails. -/
  | next (first second : Use)
  | caught (use : Use)
  | raw (body : Use)

def Use.act : Use → Act τ Unit
  | done => pure ()
  | faults f => modify fun s => s.withFaults f
  | capture => do let _ ← Terminal.capture
  | enterRaw => Terminal.enterRaw
  | restore => Terminal.restore
  | fail f => throw f
  | next first second => do first.act; second.act
  | caught use => tryCatch use.act fun _ => pure ()
  | raw body => Terminal.raw body.act

inductive Call
  | capture
  | enterRaw
  | restore
  deriving DecidableEq

def Call.act : Call → Act τ Unit
  | capture => do let _ ← Terminal.capture
  | enterRaw => Terminal.enterRaw
  | restore => Terminal.restore

structure Step (τ : Type) where
  call : Call
  before : Surroundings τ

namespace Step

def result (d : Step τ) : Except Failure Unit := (exec d.call.act d.before).1

def after (d : Step τ) : Surroundings τ := (exec d.call.act d.before).2

def calls (d : Step τ) : List (Event τ) := d.after.events.drop d.before.events.length

def asks (d : Step τ) : Bool := d.call ≠ .restore

def isEntry (d : Step τ) : Bool := d.call = .enterRaw ∧ d.result.isOk

end Step

def Use.steps : Use → Surroundings τ → List (Step τ)
  | done, _ | faults _, _ | fail _, _ => []
  | capture, s => [⟨.capture, s⟩]
  | enterRaw, s => [⟨.enterRaw, s⟩]
  | restore, s => [⟨.restore, s⟩]
  | next first second, s => first.steps s ++
    match exec first.act s with
    | (.ok _, t) => second.steps t
    | (.error _, _) => []
  | caught use, s => use.steps s
  | raw body, s => ⟨.enterRaw, s⟩ ::
    match exec Terminal.enterRaw s with
    | (.ok _, t) => body.steps t ++ [⟨.restore, (exec body.act t).2⟩]
    | (.error _, _) => []

/-- Raw mode was entered and the mode was not put back since. -/
def Entered (h : List (Step τ)) : Prop :=
  ∃ pre d post, h = pre ++ d :: post ∧ d.isEntry ∧ ∀ e ∈ post, e.call ≠ .restore

/-- Calls one after the other, between which only the faults of the device change. -/
inductive Lasts (s : Surroundings τ) : List (Step τ) → Surroundings τ → Prop
  | nil : Lasts s [] s
  | faults {h : List (Step τ)} {t : Surroundings τ} (last : Lasts s h t) (f : Faults) :
      Lasts s h (t.withFaults f)
  | step {h : List (Step τ)} {t : Surroundings τ} (last : Lasts s h t) (c : Call) :
      Lasts s (h ++ [⟨c, t⟩]) (Step.mk c t).after

variable {s t u : Surroundings τ} {h pre post : List (Step τ)} {d : Step τ}

theorem Lasts.trans {h' : List (Step τ)} (hs : Lasts s h t) (ht : Lasts t h' u) :
    Lasts s (h ++ h') u := by
  induction ht with
  | nil => rwa [List.append_nil]
  | faults _ f ih => exact ih.faults f
  | step _ c ih =>
    rw [← List.append_assoc]
    exact ih.step c

theorem Use.lasts (use : Use) (s : Surroundings τ) :
    Lasts s (use.steps s) (exec use.act s).2 := by
  induction use generalizing s with
  | done | fail => exact .nil
  | faults f => exact .faults .nil f
  | capture => exact .step .nil .capture
  | enterRaw => exact .step .nil .enterRaw
  | restore => exact .step .nil .restore
  | next first second ihFirst ihSecond =>
    have hfirst := ihFirst s
    rw [act, steps, exec_bind]
    rcases hexec : exec first.act s with ⟨f | ⟨⟩, t⟩ <;> rw [hexec] at hfirst
    · simpa using hfirst
    · exact hfirst.trans (ihSecond t)
  | caught use ih =>
    have huse := ih s
    rw [act, steps, exec_tryCatch]
    rcases hexec : exec use.act s with ⟨f | ⟨⟩, t⟩ <;> rw [hexec] at huse <;> exact huse
  | raw body ih =>
    have henter : Lasts s [⟨.enterRaw, s⟩] (exec Terminal.enterRaw s).2 := .step .nil .enterRaw
    rw [act, Terminal.raw, steps, exec_bind]
    rcases hexec : exec Terminal.enterRaw s with ⟨f | ⟨⟩, t⟩ <;> rw [hexec] at henter
    · exact henter
    · dsimp only
      rw [exec_tryFinally_snd, ← List.singleton_append]
      exact henter.trans ((ih t).step .restore)

theorem eq_last_or {α : Type} {xs pre post : List α} {x y : α} (h : xs ++ [x] = pre ++ y :: post) :
    (pre = xs ∧ y = x ∧ post = []) ∨ ∃ rest, post = rest ++ [x] ∧ xs = pre ++ y :: rest := by
  obtain rfl | ⟨rest, z, rfl⟩ := List.eq_nil_or_concat post
  · obtain ⟨rfl, hy⟩ := List.append_inj' h rfl
    exact .inl ⟨rfl, (List.singleton_inj.mp hy).symm, rfl⟩
  · rw [List.concat_eq_append, ← List.cons_append, ← List.append_assoc] at h
    obtain ⟨rfl, hz⟩ := List.append_inj' h rfl
    obtain rfl := List.singleton_inj.mp hz
    exact .inr ⟨rest, List.concat_eq_append, rfl⟩

theorem Lasts.split (hlasts : Lasts s h t) (hh : h = pre ++ d :: post) :
    Lasts s pre d.before ∧ Lasts d.after post t := by
  induction hlasts generalizing post with
  | nil => simp at hh
  | faults _ f ih => exact ⟨(ih hh).1, (ih hh).2.faults f⟩
  | @step h t last c ih =>
    obtain ⟨rfl, rfl, rfl⟩ | ⟨rest, rfl, hrest⟩ := eq_last_or hh
    · exact ⟨last, .nil⟩
    · exact ⟨(ih hrest).1, (ih hrest).2.step c⟩

theorem Lasts.upTo (hlasts : Lasts s h t) (hh : h = pre ++ post) : ∃ u, Lasts s pre u := by
  cases post with
  | nil =>
    rw [List.append_nil] at hh
    exact ⟨t, hh ▸ hlasts⟩
  | cons d post => exact ⟨d.before, (hlasts.split hh).1⟩

section Calls

variable {es : List (Event τ)}

theorem Step.calls_eq (he : d.after.events = d.before.events ++ es) : d.calls = es := by
  rw [calls, he, List.drop_left]

theorem Step.restore_after (t : Surroundings τ) : (Step.mk .restore t).after = t.restored :=
  congrArg Prod.snd (exec_restore t)

theorem Step.restore_calls (t : Surroundings τ) :
    (Step.mk .restore t).calls = t.terminal.putBack :=
  Step.calls_eq (Step.restore_after t ▸ restored_events t)

theorem entered_append_iff : Entered (h ++ [d]) ↔ d.isEntry ∨ Entered h ∧ d.call ≠ .restore := by
  constructor
  · rintro ⟨pre, e, post, hh, hentry, hpost⟩
    obtain ⟨rfl, rfl, rfl⟩ | ⟨rest, rfl, hrest⟩ := eq_last_or hh
    · exact .inl hentry
    · exact .inr ⟨⟨pre, e, rest, hrest, hentry, fun x hx => hpost x (by simp [hx])⟩,
        hpost d (by simp)⟩
  · rintro (hentry | ⟨⟨pre, e, post, rfl, hentry, hpost⟩, hd⟩)
    · exact ⟨h, d, [], rfl, hentry, by simp⟩
    · refine ⟨pre, e, post ++ [d], by simp, hentry, fun x hx => ?_⟩
      rcases List.mem_append.mp hx with hx | hx
      · exact hpost x hx
      · exact List.mem_singleton.mp hx ▸ hd

end Calls

theorem captured_events (t : Surroundings τ) :
    ∃ es, t.captured.events = t.events ++ es ∧ es.countP Event.putsMode = 0 := by
  simp only [Surroundings.captured, capture, exec_bind, exec_get]
  split
  · exact ⟨[.getMode t.terminal.fd], rfl, rfl⟩
  · exact ⟨[], by simp [exec_map], rfl⟩

/-- What the calls made so far have kept, on a terminal. -/
structure Kept (s : Surroundings τ) (h : List (Step τ)) (t : Surroundings τ) : Prop where
  isTty : t.tty.isTty = true
  fd : t.terminal.fd = s.terminal.fd
  /-- What was found first. -/
  saved : t.terminal.saved = if h.any Step.asks then some s.tty.mode else none
  mode : h.any Step.asks = false → t.tty.mode = s.tty.mode
  raw : t.terminal.raw = true ↔ Entered h
  attempts : (h.flatMap Step.calls).countP Event.putsMode + (if t.terminal.raw then 1 else 0) ≤
    h.countP Step.isEntry

namespace Kept

theorem knownMode (hk : Kept s h t) : t.knownMode = some s.tty.mode := by
  rw [Surroundings.knownMode, hk.saved, hk.isTty]
  cases hasks : h.any Step.asks with
  | true => rfl
  | false => simp [hk.mode hasks]

theorem saved_of_entered (hk : Kept s h t) (hentered : Entered h) :
    t.terminal.saved = some s.tty.mode := by
  obtain ⟨pre, d, post, rfl, hentry, -⟩ := hentered
  obtain ⟨hcall, -⟩ : d.call = .enterRaw ∧ d.result.isOk = true := by
    simpa [Step.isEntry] using hentry
  have hasks : d.asks := by simp [Step.asks, hcall]
  rw [hk.saved, if_pos (by simp [hasks])]

theorem putBack (hk : Kept s h t) : (t.terminal.putBack : List (Event τ)) =
    if t.terminal.raw then [.putMode s.terminal.fd s.tty.mode] else [] := by
  cases hraw : t.terminal.raw with
  | false =>
    rw [TerminalState.putBack, hraw]
    rfl
  | true =>
    rw [TerminalState.putBack, hraw, hk.saved_of_entered (hk.raw.mp hraw), ← hk.fd]
    rfl

theorem faults (hk : Kept s h t) (f : Faults) : Kept s h (t.withFaults f) :=
  ⟨hk.isTty, hk.fd, hk.saved, hk.mode, hk.raw, hk.attempts⟩

theorem asked (hk : Kept s h t) {c : Call} (hc : c ≠ .restore)
    (hisTty : u.tty.isTty = t.tty.isTty)
    (hterminal : u.terminal = { t.terminal with
      saved := some s.tty.mode, raw := t.terminal.raw || (Step.mk c t).isEntry })
    (hcalls : (Step.mk c t).calls.countP Event.putsMode = 0) : Kept s (h ++ [⟨c, t⟩]) u := by
  have hattempts := hk.attempts
  refine ⟨?_, ?_, ?_, ?_, ?_, ?_⟩
  · rw [hisTty, hk.isTty]
  · rw [hterminal, hk.fd]
  · simp [hterminal, Step.asks, hc]
  · simp [Step.asks, hc]
  · rw [hterminal, entered_append_iff, Bool.or_eq_true, hk.raw, or_comm]
    simp [hc]
  · rw [hterminal, List.flatMap_append, List.flatMap_singleton, List.countP_append, hcalls,
      List.countP_append, List.countP_singleton]
    cases (Step.mk c t).isEntry <;> cases hraw : t.terminal.raw <;> rw [hraw] at hattempts <;>
      simp at hattempts ⊢ <;> omega

theorem restore (hk : Kept s h t) :
    Kept s (h ++ [⟨.restore, t⟩]) (Step.mk .restore t).after := by
  rw [Step.restore_after]
  have hputs := hk.putBack
  have hasks : (h ++ [Step.mk .restore t]).any Step.asks = h.any Step.asks := by simp [Step.asks]
  have hentered : ¬ Entered (h ++ [⟨.restore, t⟩]) := by
    simp [entered_append_iff, Step.isEntry]
  have hcount : (h ++ [Step.mk .restore t]).countP Step.isEntry = h.countP Step.isEntry := by
    simp [Step.isEntry]
  have hattempts := hk.attempts
  cases hraw : t.terminal.raw with
  | false =>
    rw [hraw] at hputs
    rw [restored_of_putBack hputs]
    refine ⟨hk.isTty, hk.fd, hasks ▸ hk.saved, hasks ▸ hk.mode, ?_, ?_⟩
    · simp [hraw, hentered]
    · rw [List.flatMap_append, List.flatMap_singleton, Step.restore_calls, hputs, hcount,
        if_neg Bool.false_ne_true, List.append_nil]
      exact hk.attempts
  | true =>
    have hsaved := hk.saved_of_entered (hk.raw.mp hraw)
    have hknown : h.any Step.asks = true := by
      cases hnone : h.any Step.asks with
      | true => rfl
      | false => simp [hk.saved, hnone] at hsaved
    have hterminal : t.restored.terminal = { t.terminal with raw := false } := by
      rw [restored_of_raw hraw hsaved]
      cases t.tty.restoreFailure <;> simp [Surroundings.leavingRaw]
    have hisTty : t.restored.tty.isTty = t.tty.isTty := by
      rw [restored_of_raw hraw hsaved]
      cases t.tty.restoreFailure <;> simp [Surroundings.leavingRaw]
    refine ⟨?_, ?_, ?_, ?_, ?_, ?_⟩
    · rw [hisTty, hk.isTty]
    · rw [hterminal, hk.fd]
    · rw [hterminal, hasks]
      exact hk.saved
    · simp [hasks, hknown]
    · simp [hterminal, hentered]
    · rw [List.flatMap_append, List.flatMap_singleton, List.countP_append, Step.restore_calls, hputs,
        hraw, hcount, hterminal]
      rw [hraw] at hattempts
      exact hattempts

theorem captured_terminal (hk : Kept s h t) :
    t.captured.terminal = { t.terminal with saved := some s.tty.mode } := by
  rw [t.captured_eq, hk.knownMode]

theorem capture (hk : Kept s h t) :
    Kept s (h ++ [⟨.capture, t⟩]) (Step.mk .capture t).after := by
  have hexec : exec (Call.capture.act : Act τ Unit) t = (.ok (), t.captured) := by
    rw [Call.act, exec_bind, exec_capture]
    rfl
  have hafter : (Step.mk .capture t).after = t.captured := congrArg Prod.snd hexec
  obtain ⟨es, hes, hquiet⟩ := captured_events t
  rw [hafter]
  refine hk.asked (by decide) (by rw [t.captured_eq]) ?_ ?_
  · simp [hk.captured_terminal, Step.isEntry]
  · rw [Step.calls_eq (hafter ▸ hes), hquiet]

theorem enterRaw (hk : Kept s h t) :
    Kept s (h ++ [⟨.enterRaw, t⟩]) (Step.mk .enterRaw t).after := by
  have hisTty : t.captured.tty.isTty = t.tty.isTty := by rw [t.captured_eq]
  obtain ⟨es, hes, hquiet⟩ := captured_events t
  have hcalls (hevents : (Step.mk .enterRaw t).after.events = t.settingRaw.events) :
      (Step.mk .enterRaw t).calls.countP Event.putsMode = 0 := by
    rw [Surroundings.settingRaw, hes, List.append_assoc] at hevents
    rw [Step.calls_eq hevents, List.countP_append, hquiet]
    rfl
  have hfailed {f : Failure} (hexec : exec Terminal.enterRaw t = (.error f, t.settingRaw)) :
      Kept s (h ++ [⟨.enterRaw, t⟩]) (Step.mk .enterRaw t).after := by
    have hafter : (Step.mk .enterRaw t).after = t.settingRaw := congrArg Prod.snd hexec
    have hresult : (Step.mk .enterRaw t).result = .error f := congrArg Prod.fst hexec
    have hquiet := hcalls (by rw [hafter])
    rw [hafter]
    refine hk.asked (by decide) hisTty ?_ hquiet
    simp [Surroundings.settingRaw, hk.captured_terminal, Step.isEntry, hresult, Except.isOk,
      Except.toBool]
  have hexec := exec_enterRaw t
  rw [hk.knownMode] at hexec
  cases hobstacle : t.tty.obstacle with
  | some f => exact hfailed (by rw [hexec, hobstacle])
  | none =>
    cases hraw : t.tty.rawFailure with
    | some text => exact hfailed (by rw [hexec, hobstacle, hraw])
    | none =>
      rw [hobstacle, hraw] at hexec
      have hafter : (Step.mk .enterRaw t).after = t.enteredRaw := congrArg Prod.snd hexec
      have hresult : (Step.mk .enterRaw t).result = .ok () := congrArg Prod.fst hexec
      have hquiet := hcalls (by rw [hafter]; rfl)
      rw [hafter]
      refine hk.asked (by decide) hisTty ?_ hquiet
      simp [Surroundings.enteredRaw, Surroundings.settingRaw, hk.captured_terminal, Step.isEntry,
        hresult, Except.isOk, Except.toBool]

theorem step (hk : Kept s h t) (c : Call) : Kept s (h ++ [⟨c, t⟩]) (Step.mk c t).after := by
  cases c with
  | capture => exact hk.capture
  | enterRaw => exact hk.enterRaw
  | restore => exact hk.restore

theorem of_lasts (hlasts : Lasts s h t) (hisTty : s.tty.isTty = true)
    (hfresh : s.terminal = { fd := s.terminal.fd }) : Kept s h t := by
  induction hlasts with
  | nil =>
    refine ⟨hisTty, rfl, ?_, fun _ => rfl, ?_, ?_⟩
    · rw [hfresh]
      rfl
    · rw [hfresh]
      simp [Entered]
    · rw [hfresh]
      exact Nat.le_refl 0
  | faults _ f ih => exact ih.faults f
  | step _ c ih => exact ih.step c

end Kept

theorem Step.idle (hisTty : d.before.tty.isTty = false)
    (hfresh : d.before.terminal = { fd := d.before.terminal.fd }) :
    d.result = .ok () ∧ d.after = d.before := by
  obtain ⟨c, t⟩ := d
  have hisTty : t.tty.isTty = false := hisTty
  have hsaved : t.terminal.saved = none := congrArg TerminalState.saved hfresh
  have hraw : t.terminal.raw = false := congrArg TerminalState.raw hfresh
  have hknown : t.knownMode = none := by
    rw [Surroundings.knownMode, hsaved, hisTty]
    rfl
  have hcaptured : t.captured = t := by
    simp [Surroundings.captured, capture, exec_bind, exec_map, hsaved, hisTty]
  have hexec : exec c.act t = (.ok (), t) := by
    cases c with
    | capture =>
      rw [Call.act, exec_bind, exec_capture, hcaptured]
      rfl
    | enterRaw => rw [Call.act, exec_enterRaw, hknown, hcaptured]
    | restore => rw [Call.act, exec_restore, Surroundings.restored, hraw]
  exact ⟨congrArg Prod.fst hexec, congrArg Prod.snd hexec⟩

theorem Lasts.idle (hlasts : Lasts s h t) (hisTty : s.tty.isTty = false)
    (hfresh : s.terminal = { fd := s.terminal.fd }) :
    t.tty.isTty = false ∧ t.terminal = { fd := t.terminal.fd } := by
  induction hlasts with
  | nil => exact ⟨hisTty, hfresh⟩
  | faults _ f ih => exact ih
  | step _ c ih =>
    have hidle := Step.idle (d := ⟨c, _⟩) ih.1 ih.2
    rw [hidle.2]
    exact ih

inductive PutsBack (s : Surroundings τ) (pre : List (Step τ)) (r : Step τ) : Prop
  /-- Nothing is touched. -/
  | spared (idle : ¬ Entered pre) (untouched : r.after = r.before)
  | refused (entered : Entered pre) (fails : r.before.tty.restoreFailure.isSome)
      (calls : r.calls = [.putMode s.terminal.fd s.tty.mode])
      (mode : r.after.tty = r.before.tty)
  | done (entered : Entered pre) (works : r.before.tty.restoreFailure = none)
      (calls : r.calls = [.putMode s.terminal.fd s.tty.mode])
      (mode : r.after.tty.mode = s.tty.mode)

structure HoldsMode (s : Surroundings τ) (h : List (Step τ)) (t : Surroundings τ) : Prop where
  lasts : Lasts s h t
  /-- What is found first is remembered from then on. -/
  snapshot : ∀ pre c post, h = pre ++ c :: post → c.asks → (∀ d ∈ pre, ¬ d.asks) →
    c.before.tty.mode = s.tty.mode ∧ c.after.terminal.saved = some s.tty.mode ∧
    (∀ d ∈ post, d.before.terminal.saved = some s.tty.mode ∧
      d.after.terminal.saved = some s.tty.mode) ∧
    t.terminal.saved = some s.tty.mode
  restores : ∀ pre r post, h = pre ++ r :: post → r.call = .restore →
    r.result = .ok () ∧ PutsBack s pre r
  attempts : ∀ pre post, h = pre ++ post →
    (pre.flatMap Step.calls).countP Event.putsMode ≤ pre.countP Step.isEntry

theorem Kept.putsBack (hk : Kept s pre t) : PutsBack s pre ⟨.restore, t⟩ := by
  have hafter := Step.restore_after t
  have hputs := hk.putBack
  cases hraw : t.terminal.raw with
  | false =>
    rw [hraw] at hputs
    refine .spared (fun hentered => ?_) ?_
    · rw [hk.raw.mpr hentered] at hraw
      cases hraw
    · rw [hafter, restored_of_putBack hputs]
  | true =>
    have hentered := hk.raw.mp hraw
    have hrestored := restored_of_raw hraw (hk.saved_of_entered hentered)
    rw [hraw] at hputs
    have hcalls := (Step.restore_calls t).trans hputs
    cases hfailure : t.tty.restoreFailure with
    | some text =>
      refine .refused hentered (by simp [hfailure]) hcalls ?_
      rw [hafter, hrestored, hfailure]
      simp [Surroundings.leavingRaw]
    | none =>
      refine .done hentered hfailure hcalls ?_
      rw [hafter, hrestored, hfailure]

theorem Lasts.saved (hlasts : Lasts s h t) (hisTty : s.tty.isTty = true)
    (hfresh : s.terminal = { fd := s.terminal.fd }) (hd : d ∈ h) (hasks : d.asks) :
    t.terminal.saved = some s.tty.mode := by
  have hany : h.any Step.asks = true := List.any_eq_true.mpr ⟨d, hd, hasks⟩
  rw [(Kept.of_lasts hlasts hisTty hfresh).saved, if_pos hany]

theorem Lasts.holdsMode (hlasts : Lasts s h t) (hisTty : s.tty.isTty = true)
    (hfresh : s.terminal = { fd := s.terminal.fd }) : HoldsMode s h t := by
  refine ⟨hlasts, fun pre c post hh hasks hpre => ?_, fun pre r post hh hr => ?_,
    fun pre post hh => ?_⟩
  · obtain ⟨hbefore, -⟩ := hlasts.split hh
    have hnone : pre.any Step.asks = false := by simpa using hpre
    have hsaved {pre' post' : List (Step τ)} {u : Surroundings τ} (hu : Lasts s pre' u)
        (hc : c ∈ pre') : u.terminal.saved = some s.tty.mode :=
      hu.saved hisTty hfresh hc hasks
    refine ⟨(Kept.of_lasts hbefore hisTty hfresh).mode hnone, ?_, fun d hd => ?_, ?_⟩
    · exact (hbefore.step c.call).saved hisTty hfresh (by simp) hasks
    · obtain ⟨mid, rest, rfl⟩ := List.append_of_mem hd
      have hpick : h = (pre ++ c :: mid) ++ d :: rest := by simp [hh]
      have hmid := (hlasts.split hpick).1
      exact ⟨hmid.saved hisTty hfresh (by simp) hasks,
        (hmid.step d.call).saved hisTty hfresh (d := c) (by simp) hasks⟩
    · exact hlasts.saved hisTty hfresh (by simp [hh]) hasks
  · obtain ⟨hbefore, -⟩ := hlasts.split hh
    obtain ⟨c, u⟩ := r
    obtain rfl : c = .restore := hr
    exact ⟨congrArg Prod.fst (exec_restore u),
      (Kept.of_lasts hbefore hisTty hfresh).putsBack⟩
  · obtain ⟨u, hpre⟩ := hlasts.upTo hh
    have hattempts := (Kept.of_lasts hpre hisTty hfresh).attempts
    omega

/-- However a new holder is used, it puts back what it found first. -/
theorem use_holdsMode (use : Use) (s : Surroundings τ) (fd : Int) :
    let start : Surroundings τ := { s with terminal := { fd } }
    if s.tty.isTty then HoldsMode start (use.steps start) (exec use.act start).2
    else ∀ d ∈ use.steps start, d.result = .ok () ∧ d.after = d.before := by
  intro start
  have hlasts := use.lasts start
  split
  case isTrue hisTty => exact hlasts.holdsMode hisTty rfl
  case isFalse hisTty =>
    intro d hd
    obtain ⟨pre, post, hsteps⟩ := List.append_of_mem hd
    have hidle := (hlasts.split hsteps).1.idle (Bool.not_eq_true _ ▸ hisTty) rfl
    exact Step.idle hidle.1 hidle.2

end Terminal

end Tether
