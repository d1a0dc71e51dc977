import Tether.Proofs.Run.Channels
import Tether.Proofs.Run.Outline

/-! # Cleaning up

Every run puts the terminal's mode back if it entered raw mode, closes what it
opened, and leaves the handler of window changes as it was. That a mode cannot
be put back is logged and changes nothing else.
-/

namespace Tether

open Act Change

variable {τ α : Type}

def Event.IsAway : Event τ → Prop
  | .putMode _ _ => False
  | _ => True

/-- Neither puts a mode back nor logs in the terminal's name. -/
def Change.IsAway : Change τ → Prop
  | .event e => e.IsAway
  | .log logger _ _ => logger ≠ Terminal.loggerName
  | _ => True

theorem Change.IsInner.isAway {c : Change τ} (h : c.IsInner) : c.IsAway := by
  cases c with
  | event e =>
    cases e with
    | putMode => exact h.elim
    | _ => exact trivial
  | log => exact h
  | _ => exact trivial

theorem Change.OfConnect.isAway {c : Change τ} (h : c.OfConnect) : c.IsAway := by
  cases c with
  | event e =>
    cases e with
    | closeClient => exact trivial
    | _ => exact IsInner.isAway (IsQuiet.isInner h)
  | _ => exact IsInner.isAway (IsQuiet.isInner h)

theorem Change.OfEntry.isAway {c : Change τ} (h : c.OfEntry) : c.IsAway := by
  cases h <;> exact trivial

namespace Surroundings

variable (s : Surroundings τ)

def terminalRecords : List LogRecord :=
  s.log.records.filter fun r => r.logger = Terminal.loggerName

def RecordsWarnings : Prop :=
  s.log.outlet = .records ∧ s.log.threshold Terminal.loggerName ≤ Level.warning.rank

def withRestoreFailure (failure : Option String) : Surroundings τ :=
  { s with tty := { s.tty with restoreFailure := failure } }

theorem logged_outlet (logger : String) (level : Level) (text : String) :
    (s.logged logger level text).log.outlet = s.log.outlet := by
  rw [logged_def]
  dsimp only
  split
  · split
    · rfl
    · rfl
    · unfold Act.dump
      split <;> rfl
  · rfl

theorem logged_threshold (logger : String) (level : Level) (text name : String) :
    (s.logged logger level text).log.threshold name = s.log.threshold name := by
  rw [logged_def]
  dsimp only
  split
  · split
    · rfl
    · rfl
    · unfold Act.dump
      split <;> rfl
  · rfl

theorem logged_terminalRecords {logger : String} (h : logger ≠ Terminal.loggerName)
    (level : Level) (text : String) :
    (s.logged logger level text).terminalRecords = s.terminalRecords := by
  have hname : displayName logger ≠ Terminal.loggerName := by
    unfold displayName
    split
    · decide
    · exact h
  rw [logged_def]
  dsimp only
  split
  · split
    · simp [terminalRecords, hname]
    · rfl
    · unfold Act.dump
      split <;> rfl
  · rfl

theorem logged_warning (h : s.RecordsWarnings) (text : String) :
    (s.logged Terminal.loggerName .warning text).terminalRecords =
      s.terminalRecords ++ [⟨Terminal.loggerName, .warning, text⟩] := by
  have hname : displayName Terminal.loggerName = Terminal.loggerName := by decide
  rw [logged_def]
  simp [h.1, h.2, terminalRecords, hname]

theorem logged_recordsWarnings (logger : String) (level : Level) (text : String) :
    (s.logged logger level text).RecordsWarnings ↔ s.RecordsWarnings := by
  rw [RecordsWarnings, logged_outlet, logged_threshold, RecordsWarnings]

end Surroundings

namespace Reaches

variable {C : Change τ → Prop} {s t : Surroundings τ}

theorem terminalRecords (h : Reaches IsAway s t) : t.terminalRecords = s.terminalRecords := by
  refine h.const Surroundings.terminalRecords fun c hc s => ?_
  cases c with
  | log => exact s.logged_terminalRecords hc _ _
  | _ => rfl

theorem recordsWarnings (h : Reaches C s t) : t.RecordsWarnings ↔ s.RecordsWarnings := by
  refine iff_of_eq (h.const Surroundings.RecordsWarnings fun c _ s => propext ?_)
  cases c with
  | log => exact s.logged_recordsWarnings _ _ _
  | _ => rfl

theorem restoreFailure (h : Reaches C s t) : t.tty.restoreFailure = s.tty.restoreFailure := by
  refine h.const (·.tty.restoreFailure) fun c _ s => ?_
  cases c <;> simp [Change.apply]

theorem terminal (h : Reaches IsInner s t) : t.terminal = s.terminal := by
  refine h.const Surroundings.terminal fun c hc s => ?_
  cases c <;> first | exact hc.elim | simp [Change.apply]

theorem terminal_tty (h : Reaches OfConnect s t) : t.terminal = s.terminal ∧ t.tty = s.tty := by
  refine Prod.ext_iff.mp (h.const (fun s => (s.terminal, s.tty)) fun c hc s => ?_)
  cases c <;> first | exact hc.elim | simp [Change.apply]

end Reaches

namespace Surroundings

variable (s : Surroundings τ)

/-- The calls that put the terminal's mode back in a run, with a connection or without one. -/
def restoration (connected : Bool) : List (Event τ) :=
  match s.knownMode with
  | some mode =>
    if s.terminal.raw || (connected && s.entersRaw) then [.putMode s.terminal.fd mode] else []
  | none => []

/-- The record that a run makes of a mode that cannot be put back. -/
def restoreRecord (connected : Bool) : List LogRecord :=
  match s.restoration connected, s.tty.restoreFailure with
  | _ :: _, some text => [⟨Terminal.loggerName, .warning, Terminal.restoreText text⟩]
  | _, _ => []

theorem enterRaw_putBack : ((exec Terminal.enterRaw s).2.terminal.putBack : List (Event τ)) =
    s.restoration true := by
  rw [enterRaw_terminal, restoration, TerminalState.putBack]
  cases s.knownMode <;> cases s.terminal.raw <;> cases s.entersRaw <;> rfl

/-- What is known of the terminal does not change while a connection is opened. -/
theorem restoration_of_captured {s t : Surroundings τ}
    (hterminal : t.terminal = s.captured.terminal) (htty : t.tty = s.tty) (connected : Bool) :
    (t.restoration connected : List (Event τ)) = s.restoration connected := by
  rw [captured_eq] at hterminal
  have hknown : t.knownMode = s.knownMode := by
    rw [knownMode, hterminal, htty, knownMode]
    cases s.terminal.saved <;> cases s.tty.isTty <;> rfl
  have henters : t.entersRaw = s.entersRaw := by
    rw [entersRaw, hknown, htty, entersRaw]
  rw [restoration, hknown, henters, hterminal, restoration]

theorem captured_putBack : (s.captured.terminal.putBack : List (Event τ)) =
    s.restoration false := by
  rw [captured_eq, restoration, TerminalState.putBack]
  cases s.knownMode <;> cases s.terminal.raw <;> rfl

end Surroundings

/-- Surroundings in which the mode was put back after others, and nothing else was done but
to log in other names and to end the session. -/
structure Ending (s t : Surroundings τ) (closing : List (Event τ)) : Prop where
  events : t.events = s.events ++ s.terminal.putBack ++ closing
  terminal : (t.terminal.putBack : List (Event τ)) = []
  connection : t.connection = s.connection
  signals : t.signals = s.signals
  records : s.RecordsWarnings → t.terminalRecords = s.terminalRecords ++
    match (s.terminal.putBack : List (Event τ)), s.tty.restoreFailure with
    | _ :: _, some text => [⟨Terminal.loggerName, .warning, Terminal.restoreText text⟩]
    | _, _ => []

namespace Ending

variable {s t : Surroundings τ} {closing : List (Event τ)}

theorem restored (s : Surroundings τ) : Ending s s.restored [] where
  events := by rw [Terminal.restored_events, List.append_nil]
  terminal := Terminal.restored_putBack s
  connection := Terminal.restored_connection s
  signals := Terminal.restored_signals s
  records h := by
    rw [TerminalState.putBack, Surroundings.restored]
    split
    · rename_i mode hraw hsaved
      dsimp only
      split
      · rename_i text hfail
        have hleaving : (s.leavingRaw mode).RecordsWarnings := h
        rw [Surroundings.logged_warning _ hleaving, hfail]
        rfl
      · rename_i hfail
        rw [hfail]
        simp [Surroundings.terminalRecords, Surroundings.leavingRaw]
    · simp

theorem restored_eq (h : Ending s t closing) : t.restored = t :=
  Terminal.restored_of_putBack h.terminal

theorem judged (h : Ending s t closing) (f : Failure) : Ending s (Run.judged f t) closing := by
  obtain he | ⟨text, he⟩ := Run.judged_cases f t
  · rwa [he]
  · have hname : Run.loggerName ≠ Terminal.loggerName := by decide
    rw [he]
    exact {
      events := by simpa using h.events
      terminal := by simpa using h.terminal
      connection := by simpa using h.connection
      signals := by simpa using h.signals
      records := by simpa only [Surroundings.logged_terminalRecords _ hname] using h.records }

theorem ended (h : Ending s t []) : Ending s (Run.ended t) [.closeClient] where
  events := by simp [Run.ended, Change.apply, h.events]
  terminal := h.terminal
  connection := h.connection
  signals := h.signals
  records := h.records

end Ending

namespace Run

/-- Where the attempt at raw mode leads, which is made only if there is a connection. -/
def entering (r : Except Failure Session × Surroundings τ) : Surroundings τ :=
  if r.1.isOk then (exec Terminal.enterRaw r.2).2 else r.2

/-- What a run leaves behind, `r` being what came of connecting. The events of the run are those
of keeping the mode, of connecting, of the attempt at raw mode and of the session; then come the
call that puts the mode back and, with a connection, its close. Nothing closes it before, unless
connecting did so itself. -/
structure CleanedUp (s : Surroundings τ) (r : Except Failure Session × Surroundings τ)
    (t : Surroundings τ) (kept sought entered body : List (Event τ)) : Prop where
  events : t.events = s.events ++ kept ++ sought ++ entered ++ body ++ s.restoration r.1.isOk ++
    if r.1.isOk then [.closeClient] else []
  keeping : s.captured.events = s.events ++ kept
  connecting : r.2.events = s.captured.events ++ sought
  entry : (entering r).events = r.2.events ++ entered
  lasting : .closeClient ∉ kept ++ entered ++ body
  away : ∀ e ∈ kept ++ sought ++ entered, e.IsAway
  inner : ∀ e ∈ body, e.IsInner
  terminal : (t.terminal.putBack : List (Event τ)) = []
  channels : ∀ i, countCloses i (kept ++ sought ++ entered ++ body) =
    if s.connection.channels.length ≤ i then t.granted i else 0
  signals : t.signals = s.signals
  records : s.RecordsWarnings →
    t.terminalRecords = s.terminalRecords ++ s.restoreRecord r.1.isOk

/-- Up to the attempt to enter raw mode: nothing is opened, and nothing put back. -/
structure Early (s t : Surroundings τ) : Prop where
  away : Reaches IsAway s t
  steady : Reaches IsSteady s t

theorem Early.trans {s t u : Surroundings τ} (h : Early s t) (h' : Early t u) : Early s u :=
  ⟨h.away.trans h'.away, h.steady.trans h'.steady⟩

theorem Early.entry {s t : Surroundings τ} (h : Reaches OfEntry s t) : Early s t :=
  ⟨h.mono fun _ => OfEntry.isAway, h.mono fun _ => OfEntry.isSteady⟩

theorem Early.connect {s t : Surroundings τ} (h : Reaches OfConnect s t) : Early s t :=
  ⟨h.mono fun _ => OfConnect.isAway, h.mono fun _ => OfConnect.isSteady⟩

section

variable {s : Surroundings τ} {r : Except Failure Session × Surroundings τ}

theorem entering_reaches (r : Except Failure Session × Surroundings τ) :
    Reaches OfEntry r.2 (entering r) := by
  unfold entering
  split
  · exact Terminal.enterRaw_within.reaches .refl r.2
  · exact .refl r.2

theorem entering_putBack (h : Reaches OfConnect s.captured r.2) :
    ((entering r).terminal.putBack : List (Event τ)) = s.restoration r.1.isOk := by
  obtain ⟨hterminal, htty⟩ := h.terminal_tty
  unfold entering
  split
  · rename_i hconnected
    rw [hconnected, Surroundings.enterRaw_putBack]
    refine Surroundings.restoration_of_captured hterminal ?_ true
    rw [htty, Surroundings.captured_eq]
  · rename_i hconnected
    rw [hterminal, Surroundings.captured_putBack, Bool.of_not_eq_true hconnected]

theorem CleanedUp.of_parts {u w : Surroundings τ} (hconnect : Reaches OfConnect s.captured r.2)
    (hinner : Reaches IsInner (entering r) u) (hleaves : Leaves none (entering r) u)
    (hending : Ending u w (if r.1.isOk then [.closeClient] else [])) :
    ∃ kept sought entered body, CleanedUp s r w kept sought entered body := by
  have hcapture : Reaches OfEntry s s.captured := Terminal.capture_within.reaches .refl s
  have hearly : Early s (entering r) :=
    (Early.entry hcapture).trans ((Early.connect hconnect).trans (.entry (entering_reaches r)))
  obtain ⟨kept, hkept, hcaptured⟩ := hcapture.events (P := fun e => OfEntry (.event e)) fun _ h => h
  obtain ⟨sought, hsought, hconnected⟩ := hconnect.events (P := Event.IsAway)
    fun _ h => OfConnect.isAway h
  obtain ⟨entered, hentered, hraw⟩ :=
    (entering_reaches r).events (P := fun e => OfEntry (.event e)) fun _ h => h
  obtain ⟨body, hbody, hsession⟩ := hinner.events (P := Event.IsInner) fun _ h => h
  have hterminal : (u.terminal.putBack : List (Event τ)) = s.restoration r.1.isOk := by
    rw [hinner.terminal, entering_putBack hconnect]
  have hall := (Leaves.steady hearly.steady).trans hleaves
  have hevents : u.events = s.events ++ (kept ++ sought ++ entered ++ body) := by
    simp only [hbody, hentered, hsought, hkept, List.append_assoc]
  refine ⟨kept, sought, entered, body, ?_, hkept, hsought, hentered, ?_, ?_, hsession,
    hending.terminal, fun i => ?_, ?_, fun h => ?_⟩
  · rw [hending.events, hterminal, hevents]
    simp only [List.append_assoc]
  · intro hclose
    simp only [List.mem_append] at hclose
    obtain (hclose | hclose) | hclose := hclose
    · cases hcaptured _ hclose
    · cases hraw _ hclose
    · exact hsession _ hclose
  · intro e he
    simp only [List.mem_append] at he
    obtain (he | he) | he := he
    · exact OfEntry.isAway (hcaptured e he)
    · exact hconnected e he
    · exact OfEntry.isAway (hraw e he)
  · have hgranted : w.granted i = u.granted i := by
      rw [Surroundings.granted, Surroundings.refusals, hending.connection]
      rfl
    rw [hgranted]
    exact hall.countCloses_eq hevents i
  · rw [hending.signals, hall.signals]
  · have haway : Reaches IsAway s u := hearly.away.trans (hinner.mono fun _ => IsInner.isAway)
    rw [hending.records (haway.recordsWarnings.mpr h), haway.terminalRecords, hterminal,
      haway.restoreFailure, Surroundings.restoreRecord]

end

end Run

def UpToRestore (s t : Surroundings τ) : Prop := ∃ failure, t = s.withRestoreFailure failure

namespace UpToRestore

variable {s t : Surroundings τ}

theorem refl (s : Surroundings τ) : UpToRestore s s := ⟨s.tty.restoreFailure, rfl⟩

theorem terminalView (h : UpToRestore s t) : TerminalView s t := by
  obtain ⟨failure, rfl⟩ := h
  exact ⟨rfl, rfl, rfl, rfl, rfl⟩

theorem connectView (h : UpToRestore s t) : ConnectView s t := by
  obtain ⟨failure, rfl⟩ := h
  exact ⟨rfl, rfl, rfl, rfl, rfl, rfl⟩

theorem tunnelView (h : UpToRestore s t) : TunnelView s t := by
  obtain ⟨failure, rfl⟩ := h
  exact ⟨⟨⟨rfl, rfl, rfl, rfl⟩, rfl, rfl, rfl, rfl, rfl, rfl, rfl, rfl, rfl, rfl, rfl, rfl, rfl⟩,
    rfl⟩

theorem connection (h : UpToRestore s t) : s.connection = t.connection := by
  obtain ⟨failure, rfl⟩ := h
  rfl

/-- No change looks at the failure to put a mode back. -/
theorem apply (c : Change τ) (h : UpToRestore s t) : UpToRestore (c.apply s) (c.apply t) := by
  obtain ⟨failure, rfl⟩ := h
  refine ⟨failure, ?_⟩
  cases c with
  | log logger level text =>
    simp only [Change.apply, Surroundings.logged_def, Surroundings.withRestoreFailure]
    split
    · split <;> rfl
    · rfl
  | _ => rfl

theorem random (h : UpToRestore s t) : s.random = t.random := by
  obtain ⟨failure, rfl⟩ := h
  rfl

theorem frame {V : Surroundings τ → Surroundings τ → Prop} {C : Change τ → Prop}
    (hV : ∀ {s t : Surroundings τ}, UpToRestore s t → V s t) : Frame V C UpToRestore :=
  ⟨hV, fun _ _ _ h => h.apply _⟩

end UpToRestore

namespace Run

theorem closing_congr (r : Except Failure Int) {s t : Surroundings τ}
    (h : s.connection = t.connection) : closing r s = closing r t := by
  rw [closing, closing, h]

/-- Whether a mode can be put back has no part in the result of a run. -/
theorem client_upToRestore (m : Means Float) (o : ClientOptions)
    (hconnect : Within UpToRestore OfConnect (m.connect o))
    (hnonce : Within UpToRestore IsQuiet m.makeNonce) {s t : Surroundings Float}
    (h : UpToRestore s t) : (exec (client m o) s).1 = (exec (client m o) t).1 := by
  have hcaptured : UpToRestore s.captured t.captured :=
    (Terminal.capture_within _ (UpToRestore.frame fun h => h.terminalView) s t h).2
  rw [exec_client, exec_client]
  obtain ⟨f, s', t', es, et, -⟩ | ⟨session, _, s', t', es, et, rfl, h⟩ :=
    (hconnect _ (UpToRestore.frame fun h => h)).cases hcaptured <;> rw [es, et]
  simp only [exec_attempt]
  obtain ⟨f, u, v, eu, ev, h⟩ | ⟨_, _, u, v, eu, ev, rfl, h⟩ :=
    (Terminal.enterRaw_within _ (UpToRestore.frame fun h => h.terminalView)).cases h <;> rw [eu, ev]
  · refine closing_congr _ ?_
    rw [judged_connection, judged_connection, h.connection]
  have hinside := inSession_within m (fun _ _ h => h.tunnelView) hnonce session o
    (arguments o m.environment)
  dsimp only
  obtain ⟨f, w, w', ew, ew', h⟩ | ⟨_, _, w, w', ew, ew', rfl, h⟩ :=
    (hinside _ (UpToRestore.frame fun h => h)).cases h <;> rw [ew, ew']
  · refine closing_congr _ ?_
    rw [judged_connection, judged_connection, Terminal.restored_connection,
      Terminal.restored_connection, h.connection]
  · refine closing_congr _ ?_
    rw [Terminal.restored_connection, Terminal.restored_connection, h.connection]

/-- Every run cleans up, and a mode that cannot be put back changes nothing in its result. -/
theorem client_cleansUp (m : Means Float) (o : ClientOptions) (s : Surroundings Float)
    (hconnect : Within UpToRestore OfConnect (m.connect o))
    (hnonce : Within UpToRestore IsQuiet m.makeNonce) :
    (∃ kept sought entered body, CleanedUp s (exec (m.connect o) s.captured)
        (exec (client m o) s).2 kept sought entered body) ∧
      ∀ failure, (exec (client m o) (s.withRestoreFailure failure)).1 =
        (exec (client m o) s).1 := by
  refine ⟨?_, fun failure => (client_upToRestore m o hconnect hnonce ⟨failure, rfl⟩).symm⟩
  have hconnected := hconnect.reaches .refl s.captured
  rw [exec_client]
  rcases e : exec (m.connect o) s.captured with ⟨f | session, t⟩ <;> rw [e] at hconnected
  · have hjudged := judged_reaches f t
    exact CleanedUp.of_parts hconnected (hjudged.mono fun _ => IsQuiet.isInner)
      (.steady (hjudged.mono fun _ => IsQuiet.isSteady)) (.restored _)
  · have hinside := inSession_within m (fun _ _ h => h.tunnelView) hnonce session o
      (arguments o m.environment)
    have hsettles := inSession_settles m (fun _ _ h => h.tunnelView) .refl hnonce session o
      (arguments o m.environment)
    simp only [exec_attempt]
    rcases e : exec Terminal.enterRaw t with ⟨f | _, u⟩ <;>
      have hentering : entering (.ok session, t) = u := congrArg Prod.snd e
    · have hjudged := judged_reaches f u
      rw [← hentering] at hjudged ⊢
      exact CleanedUp.of_parts hconnected (hjudged.mono fun _ => IsQuiet.isInner)
        (.steady (hjudged.mono fun _ => IsQuiet.isSteady)) (Ending.restored _).ended
    · have hinner := hinside.reaches .refl u
      have hleaves := hsettles u
      dsimp only
      rcases e : exec (inSession m session o (arguments o m.environment)) u with ⟨f | _, v⟩ <;>
        rw [e, ← hentering] at hinner hleaves
      · have hending := (Ending.restored v).judged f
        dsimp only
        rw [hending.restored_eq]
        exact CleanedUp.of_parts hconnected hinner hleaves hending.ended
      · have hending := Ending.restored v
        dsimp only
        rw [hending.restored_eq]
        exact CleanedUp.of_parts hconnected hinner hleaves hending.ended

def stuck : Surroundings Float where
  clock := 0
  tty := { isTty := true, restoreFailure := some "Input/output error" }

theorem client_cleansUp_stuck :
    Within UpToRestore OfConnect ((Program.means []).connect { host := "far", keyFile := {} }) ∧
      Within UpToRestore IsQuiet (Program.means []).makeNonce ∧
      (∃ kept sought entered body, CleanedUp stuck
        (exec ((Program.means []).connect { host := "far", keyFile := {} }) stuck.captured)
        (exec (client (Program.means []) { host := "far", keyFile := {} }) stuck).2
        kept sought entered body) ∧
      ∀ failure, (exec (client (Program.means []) { host := "far", keyFile := {} })
          (stuck.withRestoreFailure failure)).1 =
        (exec (client (Program.means []) { host := "far", keyFile := {} }) stuck).1 := by
  have hconnect : Within UpToRestore OfConnect
      ((Program.means []).connect { host := "far", keyFile := {} }) :=
    (Program.connect_within [] _).mono (fun _ _ h => h.connectView) fun _ h => h
  have hnonce : Within UpToRestore IsQuiet (Program.means []).makeNonce :=
    (Program.makeNonce_within []).mono (fun _ _ h => h.random) fun _ h => h
  exact ⟨hconnect, hnonce, client_cleansUp _ _ stuck hconnect hnonce⟩

end Run

end Tether
