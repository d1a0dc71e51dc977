import Tether.Proofs.Run.Conclusion

/-! # The truth of a status

The status that a run returns is the one that its command reported. The lookup of the server side
runs a command too, but its status never gets through.
-/

namespace Tether

open Act Change

variable {τ α : Type}

def Surroundings.since (s t : Surroundings τ) : List (Event τ) := t.events.drop s.events.length

theorem Follows.mem_since {ns : List (Event τ)} {k : Nat} {s t : Surroundings τ}
    (h : Follows ns k s t) {e : Event τ} (he : e.isNote = true) : e ∈ s.since t ↔ e ∈ ns := by
  obtain ⟨es, hes, rfl⟩ := h.events
  rw [Surroundings.since, hes, List.drop_left, List.mem_filter]
  simp [he]

namespace Run

def commandIndex (o : ClientOptions) (s : Surroundings τ) : Nat :=
  s.connection.channels.length + lookups o

/-- The command was started: its channel was asked to run it and did not fail. -/
def Started (i : Nat) (s t : Surroundings τ) : Prop :=
  (∃ command, .channel i (.exec command) ∈ s.since t) ∧
    (s.connection.script i).faults.exec = none

/-- The command was started, and it reported a status when it was asked for it; −1 stands for
none. -/
structure Reports (i : Nat) (status : Int) (s t : Surroundings τ) : Prop where
  started : Started i s t
  asked : .channel i .exitStatus ∈ s.since t
  answered : (s.connection.script i).faults.exitStatus = none
  status : (s.connection.script i).status = status

def Closes (i : Nat) (s : Surroundings τ) : Prop :=
  (s.connection.script i).faults.close = none ∧ s.connection.close = none

/-- The result of a run is true to what its command reported. -/
structure Truthful (o : ClientOptions) (s t : Surroundings τ) (r : Except Failure Int) : Prop where
  zero : r = .ok 0 ↔ Reports (commandIndex o s) 0 s t ∧
    Closes (commandIndex o s) s
  returned : ∀ n, r = .ok n → n ≠ 0 → n ≠ exitFailure →
    Reports (commandIndex o s) n s t
  reported : ∀ n, Reports (commandIndex o s) n s t → n ≠ 0 → n ≠ -1 →
    Closes (commandIndex o s) s → r = .ok n
  /-- Without a status there is the one that stands for failures. -/
  failed : (∀ n, Reports (commandIndex o s) n s t → n = -1) →
    ∀ n, r = .ok n → n = exitFailure
  /-- A lookup that reports anything but success is such a failure. -/
  lookup : o.bin = "" → (s.connection.script s.connection.channels.length).status ≠ 0 →
    ¬ Started (commandIndex o s) s t ∧ ∀ n, r = .ok n → n = exitFailure

section

variable {o : ClientOptions} {s t : Surroundings τ} {r : Except Failure Int}

theorem Truthful.of_unstarted (h : ¬ Started (commandIndex o s) s t)
    (hr : ∀ n, r = .ok n → n = exitFailure) : Truthful o s t r := by
  constructor
  · constructor
    · intro hzero
      cases hr 0 hzero
    · intro hreports
      exact absurd hreports.1.started h
  · intro n hn _ hother
    exact absurd (hr n hn) hother
  · intro n hreports
    exact absurd hreports.started h
  · exact fun _ => hr
  · exact fun _ _ => ⟨h, hr⟩

theorem closing_ok {n : Int} {u : Surroundings τ} (h : closing r u = .ok n) : r = .ok n := by
  rw [closing] at h
  split at h
  · exact h
  · cases h

def judgement (r : Except Failure Unit) : Except Failure Int :=
  match r with
  | .ok () => .ok 0
  | .error f => verdict f

theorem judgement_cases {ch : Channel} (hclose : ∀ f, ch.faults.close = some f → f.IsMute)
    (hasked : ∀ f, ch.faults.exitStatus = some f → f.IsMute) {command : Option String} {n : Int}
    (h : judgement (Remote.closeResult ch (Remote.waitResult ch command)) = .ok n) :
    n = exitFailure ∨
      (ch.faults.close = none ∧ ch.faults.exitStatus = none ∧ ch.status = n ∧ n ≠ -1) := by
  rw [Remote.closeResult] at h
  cases hfault : ch.faults.close with
  | some f =>
    rw [hfault] at h
    exact .inl (hclose f hfault n h)
  | none =>
    rw [hfault] at h
    rw [Remote.waitResult] at h
    cases hstatus : ch.faults.exitStatus with
    | some f =>
      rw [hstatus] at h
      exact .inl (hasked f hstatus n h)
    | none =>
      rw [hstatus] at h
      dsimp only at h
      split at h
      · cases h
        exact .inl rfl
      · rename_i hnone
        refine .inr ⟨rfl, rfl, ?_⟩
        split at h
        · rename_i hzero
          cases h
          exact ⟨hzero, by decide⟩
        · cases h
          exact ⟨rfl, hnone⟩

theorem judgement_reported {ch : Channel} (hclose : ch.faults.close = none)
    (hasked : ch.faults.exitStatus = none) (hstatus : ch.status ≠ -1) (command : Option String) :
    judgement (Remote.closeResult ch (Remote.waitResult ch command)) = .ok ch.status := by
  rw [Remote.closeResult, hclose]
  dsimp only
  rw [Remote.waitResult, hasked]
  dsimp only
  rw [if_neg hstatus]
  split
  · rename_i hzero
    rw [hzero]
    rfl
  · rfl

/-- The status of a run whose command was asked for one is that status, or stands for a failure. -/
theorem Started.reports {i : Nat} {status : Int} (h : Started i s t) (hs : s.Discreet)
    (hasked : .channel i .exitStatus ∈ s.since t) (hclosed : s.connection.close = none)
    {command : Option String}
    (hjudged : judgement (Remote.closeResult (s.connection.script i)
      (Remote.waitResult (s.connection.script i) command)) = .ok status) :
    status = exitFailure ∨ (Reports i status s t ∧ Closes i s ∧ status ≠ -1) := by
  obtain hn | ⟨hclose, hanswered, hstatus, hn⟩ := judgement_cases
    (hs.fault i (by simp [ChannelFaults.all])) (hs.fault i (by simp [ChannelFaults.all])) hjudged
  · exact .inl hn
  · exact .inr ⟨⟨h, hasked, hanswered, hstatus⟩, ⟨hclose, hclosed⟩, hn⟩

theorem not_started_of_strays {i : Nat} {exported : Bool}
    (h : Strays (Event.IsEarly i exported) s t) : ¬ Started i s t := by
  rintro ⟨⟨command, hmem⟩, -⟩
  obtain ⟨ns, k, hns, hearly⟩ := h
  exact hearly _ ((hns.mem_since rfl).mp hmem) rfl

theorem not_started_of_follows {i k : Nat} (h : Follows [] k s t) : ¬ Started i s t :=
  not_started_of_strays (.of_quiet (P := Event.IsEarly i true) h)

theorem Truthful.of_concluded (hs : s.Discreet) {r₀ : Except Failure Unit} (exported : Bool)
    (hr : r = match s.connection.close with
      | none => judgement r₀
      | some f => .error f)
    (hconcluded : Concluded (commandIndex o s)
      (s.connection.script (commandIndex o s)) s t r₀)
    (hlookup : o.bin = "" → (s.connection.script s.connection.channels.length).status ≠ 0 →
      ∃ f, f.IsMute ∧ r₀ = .error f ∧
        Strays (Event.IsEarly (commandIndex o s) exported) s t) :
    Truthful o s t r := by
  obtain ⟨ns, k, hns, hconcludes⟩ := hconcluded
  have hok {n : Int} (h : r = .ok n) : s.connection.close = none ∧ judgement r₀ = .ok n := by
    rw [hr] at h
    split at h
    · rename_i hclose
      exact ⟨hclose, h⟩
    · cases h
  cases hconcludes with
  | @unstarted f h hf =>
    refine .of_unstarted ?_ fun n hn => hf n (hok hn).2
    rintro ⟨⟨command, hmem⟩, hexec⟩
    exact h command ((hns.mem_since rfl).mp hmem) hexec
  | @attended command started hexec hstarted hasked =>
    have hstart : Started (commandIndex o s) s t :=
      ⟨⟨command, (hns.mem_since rfl).mpr hexec⟩, hstarted⟩
    have hask := (hns.mem_since rfl).mpr hasked
    have hcases {n : Int} (h : r = .ok n) : n = exitFailure ∨
        (Reports (commandIndex o s) n s t ∧ Closes (commandIndex o s) s ∧ n ≠ -1) := by
      obtain ⟨hclosed, hjudged⟩ := hok h
      exact hstart.reports hs hask hclosed hjudged
    have hreported {n : Int} (h : Reports (commandIndex o s) n s t) (hn : n ≠ -1)
        (hcloses : Closes (commandIndex o s) s) : r = .ok n := by
      have hjudged := judgement_reported hcloses.1 h.answered (h.status ▸ hn) started
      rw [hr, hcloses.2]
      exact hjudged.trans (congrArg _ h.status)
    constructor
    · constructor
      · intro hzero
        obtain hn | ⟨hreports, hcloses, -⟩ := hcases hzero
        · cases hn
        · exact ⟨hreports, hcloses⟩
      · rintro ⟨hreports, hcloses⟩
        exact hreported hreports (by decide) hcloses
    · intro n hn _ hother
      obtain hn | ⟨hreports, -⟩ := hcases hn
      · exact absurd hn hother
      · exact hreports
    · exact fun n hreports _ => hreported hreports
    · intro hnone n hn
      obtain hn | ⟨hreports, -, hn⟩ := hcases hn
      · exact hn
      · exact absurd (hnone n hreports) hn
    · intro hbin hfailed
      obtain ⟨f, hf, he, hearly⟩ := hlookup hbin hfailed
      refine ⟨not_started_of_strays hearly, fun n hn => hf n ?_⟩
      have hjudged := (hok hn).2
      rwa [he] at hjudged

end

/-- Connects as the client does, and whatever it calls for a passphrase or a nonce minds its own
business. -/
structure Means.Plain (m : Means Float) (o : ClientOptions) : Prop where
  connect : ∃ prompt, m.connect o = Connect.session o prompt ∧
    ∀ ask ∈ prompt, ∀ path, (ask path).Modest
  nonce : m.makeNonce.Modest

theorem Means.Plain.modest {m : Means Float} {o : ClientOptions} (h : m.Plain o) :
    (∀ s, Reaches (fun c => c.IsApart ∧ c.OpensNone) s (exec (m.connect o) s).2) ∧
      Mute Surroundings.Discreet (m.connect o) := by
  obtain ⟨prompt, hconnect, hprompt⟩ := h.connect
  rw [hconnect]
  constructor
  · refine Connect.session_reaches (fun c hc => ⟨hc.isApart, ?_⟩) fun ask hask path =>
      (hprompt ask hask path).reaches
    cases hc with
    | dialling hc => cases hc <;> trivial
    | _ => trivial
  · exact Connect.session_mute (fun ask hask path => (hprompt ask hask path).reaches)
      fun ask hask path => (hprompt ask hask path).mute

theorem attempt_inside {m : Means Float} {o : ClientOptions} (session : Session)
    {s t : Surroundings Float} (h : exec Terminal.enterRaw s = (.ok (), t)) :
    let inside := exec (inSession m session o (arguments o m.environment)) t
    ∃ u, exec (attempt m session o) s = (judgement inside.1, u) ∧ Follows [] 0 inside.2 u ∧
      u.connection = inside.2.connection := by
  intro inside
  have hinside : exec (inSession m session o (arguments o m.environment)) t = inside := rfl
  rw [exec_attempt, h]
  dsimp only
  rw [hinside]
  obtain ⟨f | ⟨⟩, v⟩ := inside
  · refine ⟨_, rfl, (restored_follows v).after (judged_follows f _), ?_⟩
    rw [judged_connection, Terminal.restored_connection]
  · exact ⟨_, rfl, restored_follows v, Terminal.restored_connection v⟩

/-- Whatever goes wrong, the status that a run returns is true to what its command reported. -/
theorem client_truthful {m : Means Float} {o : ClientOptions} (hm : m.Plain o)
    {s : Surroundings Float} (hs : s.Discreet) :
    Truthful o s (exec (client m o) s).2 (exec (client m o) s).1 := by
  obtain ⟨hreaches, hmute⟩ := hm.modest
  have hcaptured := Terminal.capture_within.reaches .refl s
  have hstart : Reaches OpensNone s (exec (m.connect o) s.captured).2 :=
    (hcaptured.mono fun _ hc => hc.opensNone).trans ((hreaches _).mono fun _ hc => hc.2)
  have hconnected : Follows [] 0 s (exec (m.connect o) s.captured).2 :=
    (entry_follows hcaptured).before (.of_reaches (fun _ hc => hc.1) (hreaches _))
  rw [exec_client]
  rcases e : exec (m.connect o) s.captured with ⟨f | session, t⟩ <;> rw [e] at hstart hconnected
  · have hf := hmute _ (hcaptured.discreet hs) f t e
    refine .of_unstarted (not_started_of_follows (k := 0) ?_) hf
    exact hconnected.after ((judged_follows f t).after (restored_follows _))
  have hentered := Terminal.enterRaw_within.reaches .refl t
  dsimp only
  rcases e' : exec Terminal.enterRaw t with ⟨f | ⟨⟩, u⟩ <;> rw [e'] at hentered
  · have hf := Terminal.enterRaw_mute t (hstart.discreet hs) f u e'
    rw [exec_attempt, e']
    refine .of_unstarted (not_started_of_follows (k := 0) ?_)
      fun n hn => hf n (closing_ok hn)
    have hover := (judged_follows f u).after (ended_follows _)
    exact hconnected.after ((entry_follows hentered).after hover)
  · have hu := hconnected.after (entry_follows hentered)
    have hreached := hstart.trans (hentered.mono fun _ hc => hc.opensNone)
    have hinside := (inSession_reaches (o := o) hm.nonce session (arguments o m.environment)
      u).outside.trans hreached.outside
    obtain ⟨hconcluded, hlookup⟩ := inSession_concluded (o := o) hm.nonce (hreached.discreet hs)
      session (arguments o m.environment)
    have hindex : u.connection.channels.length = s.connection.channels.length := hu.channels
    rw [Surroundings.next, Nat.add_zero] at hlookup
    rw [hreached.outside.script, hindex] at hconcluded hlookup
    obtain ⟨w, hattempt, hover, hconnection⟩ := attempt_inside (m := m) (o := o) session e'
    have hafter := hover.after (ended_follows w)
    have hearly : Strays (Event.IsEarly (commandIndex o s) (namespaceEnabled m.environment)) s u :=
      .of_quiet hu
    rw [hattempt]
    refine .of_concluded hs (namespaceEnabled m.environment) ?_
      ((hconcluded.before hearly).after hafter) fun hbin hfailed => ?_
    · have hclose : w.connection.close = s.connection.close := by
        rw [hconnection, hinside.close]
      unfold closing
      cases hfailure : s.connection.close <;> simp only [hclose, hfailure]
    · obtain ⟨f, hf, he, hstrays⟩ := hlookup hbin hfailed
      exact ⟨f, hf, he, (hearly.trans hstrays).after hafter⟩

theorem means_plain (env : Environment) (o : ClientOptions) : (Program.means env).Plain o := by
  have hask (path : Path) : (Program.askPassphrase path).Modest := by
    constructor
    · exact (Program.askPassphrase_within (fun _ => ⟨rfl, trivial⟩) path).reaches .refl
    · exact (Mute.emit _).next fun _ => .get fun s _ => .pure _
  have hnonce : (Program.means env).makeNonce.Modest := by
    constructor
    · exact (Program.makeNonce_within env).reaches fun _ => rfl
    · exact Nonce.generate_mute _
  refine ⟨⟨some Program.askPassphrase, rfl, fun ask h path => ?_⟩, hnonce⟩
  obtain rfl : Program.askPassphrase = ask := Option.some.inj h
  exact hask path

def exiting : Surroundings Float where
  clock := 0
  files := { known := [({ parts := ["k"] }, Bytes.ofAscii Connect.smallKey)] }
  network := .found [{ name := "a" }]
  connection := { script := fun i =>
    if i = 0 then { stdout := [.data (Bytes.ofAscii "/bin/cpud")] } else { status := 7 } }

def exitingOptions : ClientOptions where
  host := "srv"
  bin := ""
  keyFile := { parts := ["k"] }

theorem client_truthful_exiting :
    (Program.means [("CPU_NAMESPACE", "")]).Plain exitingOptions ∧ exiting.Discreet ∧
      (exec (client (Program.means [("CPU_NAMESPACE", "")]) exitingOptions) exiting).1 = .ok 7 ∧
      Reports 1 7 exiting
        (exec (client (Program.means [("CPU_NAMESPACE", "")]) exitingOptions) exiting).2 := by
  have hplain := means_plain [("CPU_NAMESPACE", "")] exitingOptions
  have hdiscreet : exiting.Discreet := by
    intro f hf
    cases hf with
    | @refused i _ h =>
      by_cases hi : i = 0 <;> simp [exiting, hi] at h
    | @fault i _ h =>
      by_cases hi : i = 0 <;> simp [exiting, hi, ChannelFaults.all] at h
    | forward h => cases h
    | cancel h => cases h
    | close h => cases h
    | share he _ => cases he
    | obstacle h => cases h
    | @address as a _ hnetwork ha h =>
      obtain rfl : [{ name := "a" }] = as := Lookup.found.inj hnetwork
      obtain rfl := List.mem_singleton.mp ha
      simp at h
    | login h => cases h
  have htruthful := client_truthful hplain hdiscreet
  have hresult : (exec (client (Program.means [("CPU_NAMESPACE", "")]) exitingOptions)
      exiting).1 = .ok 7 := by
    decide +kernel
  exact ⟨hplain, hdiscreet, hresult, htruthful.returned 7 hresult (by decide) (by decide)⟩

end Run

end Tether
