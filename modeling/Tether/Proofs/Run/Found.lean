import Tether.Proofs.Remote.Status
import Tether.Proofs.Run.Truthful
import Tether.Proofs.Text.Lines

/-! # The server side that is found

A lookup writes its output line by line, and what it names is taken from the last line that is not
blank: not that line, but only the last word of it. The command of the server side has this word in
both of its places.
-/

namespace Tether

open Act Change

variable {τ : Type}

namespace Run

/-- What a lookup with this output names: the last word of the last line. -/
def Names (output : Bytes) (server : String) : Prop :=
  ∃ line ∈ Text.lastLine? (Utf8.decodeLossy output), lastWord? line = some server.toList

theorem names_iff {output : Bytes} {server : String} :
    Names output server ↔ lastWord? (Utf8.decodeLossy output) = some server.toList := by
  rw [Names, lastWord?, Text.getLast?_words, Option.bind_eq_some_iff]
  rfl

theorem Names.ne_empty {output : Bytes} {server : String} (h : Names output server) :
    server ≠ "" := by
  rintro rfl
  exact Text.ne_nil_of_mem_words (List.mem_of_getLast? (names_iff.mp h)) rfl

theorem lastWord?_eq_none_iff {cs : List Char} :
    lastWord? cs = none ↔ ∀ line ∈ Text.lines cs, ∀ c ∈ line, Text.isBlank c := by
  rw [lastWord?, List.getLast?_eq_none_iff, Text.words_eq_flatMap, List.flatMap_eq_nil_iff]
  simp only [Text.words_eq_nil_iff]

theorem findServer_names {run : String → Act τ Bytes} {w : Surroundings τ} {output : Bytes}
    (h : (exec (run s!"command -v {serverName}") w).1 = .ok output) :
    ((exec (findServer run) w).1 = .error (.configuration (.noServer none)) ↔
        ∀ line ∈ Text.lines (Utf8.decodeLossy output), ∀ c ∈ line, Text.isBlank c) ∧
      ∀ server, (exec (findServer run) w).1 = .ok server ↔ Names output server := by
  rw [exec_findServer, h, ← lastWord?_eq_none_iff]
  dsimp only
  simp only [names_iff]
  cases lastWord? (Utf8.decodeLossy output) with
  | none => simp
  | some word => simp [← String.toList_inj, eq_comm]

theorem exists_run_of_found {run : String → Act τ Bytes} {s t : Surroundings τ} {server : String}
    (h : exec (findServer run) s = (.ok server, t)) :
    ∃ output, (exec (run s!"command -v {serverName}") s).1 = .ok output := by
  have hfound := exec_findServer run s
  rw [h] at hfound
  cases hrun : (exec (run s!"command -v {serverName}") s).1 with
  | error f =>
    rw [hrun] at hfound
    cases hfound
  | ok output => exact ⟨output, rfl⟩

variable {m : Means Float} {o : ClientOptions}

/-- The only command on a channel is that of one of these server sides. -/
def Commands (o : ClientOptions) (args : String) (i : Nat) (servers : String → Prop) :
    Event τ → Prop
  | .channel j (.exec command) => j = i → ∃ server port, servers server ∧
      command = Launch.command { o with bin := server } args port
  | _ => True

section

variable {args : String} {i : Nat} {servers : String → Prop} {s t : Surroundings τ}

theorem Commands.of_isEarly {exported : Bool} {e : Event τ} (h : e.IsEarly i exported) :
    Commands o args i servers e := by
  cases e with
  | channel j call =>
    cases call with
    | exec command => exact fun hj => absurd hj h
    | _ => trivial
  | _ => trivial

theorem Worked.commands {port : Option String} {env : Environment} (hserver : servers o.bin)
    (h : Worked i (Launch.command o args port) env s t) :
    Strays (Commands o args i servers) s t := by
  obtain ⟨request, ending, -, hending, hns⟩ := h
  refine .of_follows hns fun e he => ?_
  simp only [Launch.beginNotes, Launch.setNotes, List.mem_append, List.mem_map, List.mem_cons,
    List.not_mem_nil, or_false] at he
  rcases he with (⟨v, -, rfl⟩ | rfl | rfl | rfl | rfl) | he
  · trivial
  · trivial
  · trivial
  · trivial
  · exact fun _ => ⟨o.bin, port, hserver, rfl⟩
  · cases hending with
    | failed =>
      obtain rfl := List.mem_singleton.mp he
      trivial
    | attended =>
      simp only [List.mem_cons, List.not_mem_nil, or_false] at he
      rcases he with rfl | rfl <;> trivial

end

theorem inSession_commands (hnonce : m.makeNonce.Modest) (session : Session) (hbin : o.bin ≠ "")
    {servers : String → Prop} (hserver : servers o.bin) (args : String) (s : Surroundings Float) :
    Strays (Commands o args s.connection.channels.length servers) s
      (exec (inSession m session o args) s).2 := by
  let i := s.connection.channels.length
  let exported := namespaceEnabled m.environment
  have hearly {t : Surroundings Float} (ht : Strays (Event.IsEarly i exported) s t) :
      Strays (Commands o args i servers) s t := ht.mono fun _ => .of_isEarly
  have htunnel := (openTunnel_early hnonce session o i s).snd
  have hkept := openTunnel_opensNone hnonce session o s
  rw [inSession_eq, withServer, if_neg hbin, pure_bind, exec_bind]
  rcases e : exec (openTunnel m session o) s with ⟨f | ⟨port, extra⟩, t⟩ <;> rw [e] at htunnel hkept
  · exact hearly htunnel
  dsimp only
  rw [exec_bind, exec_log]
  dsimp only
  generalize hlogged : t.logged loggerName .debug
    s!"command is {Text.quoted (Launch.command o args port)}" = v
  have hlog : Reaches (fun c => c.IsApart ∧ c.OpensNone) t v :=
    hlogged ▸ .change (c := .log _ _ _) ⟨trivial, trivial⟩ t
  have hv : Strays (Event.IsEarly i exported) s v :=
    htunnel.after (.of_reaches (fun _ hc => hc.1) hlog)
  have hindex : v.connection.channels.length = i :=
    (hlog.keeps _ (fun c hc => Continues.lasting c hc.2)
      (hkept.keeps _ Continues.lasting (.refl s))).count
  have hopened := session.openChannel_ensures v
  unfold Ensures at hopened
  rw [exec_bind]
  rcases e' : exec session.openChannel v with ⟨f | j, w⟩ <;> rw [e'] at hopened
  · exact hearly (hv.trans (hopened.mono (by simp [Event.IsEarly])))
  · obtain ⟨rfl, hw⟩ := hopened
    have hw : Strays (Event.IsEarly i exported) s w :=
      hv.trans (.of_follows hw (by simp [Event.IsEarly]))
    dsimp only
    rw [hindex]
    have hworked := ((work_ensures i exported (Launch.command o args port) (m.environment ++ extra)
      w).mono (fun _ => id) fun _ _ => .inr).snd
    exact hworked.elim (fun h => hearly (hw.trans h)) fun h =>
      (hearly hw).trans (h.commands hserver)

theorem exec_inSession_found {session : Session} {args server : String}
    {s t : Surroundings Float} (hbin : o.bin = "") (hserver : server ≠ "")
    (h : exec (findServer session.run) s = (.ok server, t)) :
    exec (inSession m session o args) s =
      exec (inSession m session { o with bin := server } args) t := by
  rw [inSession_eq, inSession_eq, withServer, withServer, if_pos hbin, if_neg hserver, pure_bind,
    bind_assoc, exec_bind, h]
  rfl

theorem inSession_lookup (hnonce : m.makeNonce.Modest) (session : Session) (hbin : o.bin = "")
    (args : String) (s : Surroundings Float) :
    Strays (Commands o args (s.connection.channels.length + 1) fun server =>
        ∃ output, (s.next 0).stdout.readAll.1 = .ok output ∧ Names output server) s
      (exec (inSession m session o args) s).2 := by
  have hlookup := findServer_ensures session s
  have hnotes : ∀ e ∈ (Session.runNotes s.connection.channels.length
      s!"command -v {serverName}" : List (Event Float)),
      e.IsEarly (s.connection.channels.length + 1) true := by
    simp [Session.runNotes, Event.IsEarly]
  unfold Ensures at hlookup
  rcases e : exec (findServer session.run) s with ⟨f | server, t⟩ <;> rw [e] at hlookup
  · rw [inSession_eq, withServer, if_pos hbin, bind_assoc, exec_bind, e]
    exact hlookup.mono fun e he => .of_isEarly (hnotes e he)
  · obtain ⟨output, hrun⟩ := exists_run_of_found e
    have hnames := (findServer_names hrun).2 server |>.mp (congrArg Prod.fst e)
    let servers (server : String) : Prop :=
      ∃ output, (s.next 0).stdout.readAll.1 = .ok output ∧ Names output server
    obtain ⟨ns, hran, -⟩ := session.run_ran s!"command -v {serverName}" s
    have hserver : servers server := ⟨output, (hran.of_ok hrun).2.2, hnames⟩
    have hindex : t.connection.channels.length = s.connection.channels.length + 1 :=
      hlookup.channels
    have hrest := inSession_commands (o := { o with bin := server }) hnonce session
      hnames.ne_empty hserver args t
    rw [hindex] at hrest
    rw [exec_inSession_found hbin hnames.ne_empty e]
    exact .trans (.of_follows hlookup fun e he => .of_isEarly (hnotes e he)) hrest

theorem client_strays {P : Event Float → Prop} (hm : m.Plain o) (s : Surroundings Float)
    (h : ∀ session (u : Surroundings Float), u.connection.script = s.connection.script →
      u.connection.channels.length = s.connection.channels.length →
      Strays P u (exec (inSession m session o (arguments o m.environment)) u).2) :
    Strays P s (exec (client m o) s).2 := by
  have hreaches := hm.modest.1 s.captured
  have hcaptured := Terminal.capture_within.reaches .refl s
  have hscript := hreaches.outside.trans hcaptured.outside
  have hconnected : Follows [] 0 s (exec (m.connect o) s.captured).2 :=
    (entry_follows hcaptured).before (.of_reaches (fun _ hc => hc.1) hreaches)
  rw [exec_client]
  rcases e : exec (m.connect o) s.captured with ⟨f | session, t⟩ <;> rw [e] at hscript hconnected
  · exact .of_quiet (hconnected.after ((judged_follows f t).after (restored_follows _)))
  have hentered := Terminal.enterRaw_within.reaches .refl t
  dsimp only
  rcases e' : exec Terminal.enterRaw t with ⟨f | ⟨⟩, u⟩ <;> rw [e'] at hentered
  · have hover := (judged_follows f u).after (ended_follows _)
    rw [exec_attempt, e']
    exact .of_quiet (hconnected.after ((entry_follows hentered).after hover))
  · have hu := hconnected.after (entry_follows hentered)
    obtain ⟨w, hattempt, hover, -⟩ := attempt_inside (m := m) (o := o) session e'
    rw [hattempt]
    have hinside := h session u (hentered.outside.trans hscript).script hu.channels
    exact (Strays.of_quiet hu).trans (hinside.after (hover.after (ended_follows w)))

/-- The lookup names the last word of the last line, which is the whole line only if there is no
blank in it, and the command has it in both places of its command line. -/
theorem client_lookup (hm : m.Plain o) (hbin : o.bin = "") (s : Surroundings Float) :
    (∀ (run : String → Act Float Bytes) w output,
      (exec (run s!"command -v {serverName}") w).1 = .ok output →
        ((exec (findServer run) w).1 = .error (.configuration (.noServer none)) ↔
          ∀ line ∈ Text.lines (Utf8.decodeLossy output), ∀ c ∈ line, Text.isBlank c) ∧
        ∀ server, (exec (findServer run) w).1 = .ok server ↔ Names output server) ∧
      (∀ output line, Text.lastLine? (Utf8.decodeLossy output) = some line →
        (Names output (String.ofList line) ↔ ∀ c ∈ line, Text.isBlank c = false)) ∧
      ∀ command, .channel (s.connection.channels.length + 1) (.exec command) ∈
          s.since (exec (client m o) s).2 →
        ∃ output server port, (s.next 0).stdout.readAll.1 = .ok output ∧ Names output server ∧
          command = Launch.command { o with bin := server } (arguments o m.environment) port := by
  refine ⟨fun run w output => findServer_names, fun output line hline => ?_, fun command hmem => ?_⟩
  · rw [Names, hline, ← Text.getLast?_words_eq_self_iff (Text.lastLine?_mem hline).1]
    simp [lastWord?]
  · have hstrays := client_strays (P := Commands o (arguments o m.environment)
        (s.connection.channels.length + 1) fun server =>
          ∃ output, (s.next 0).stdout.readAll.1 = .ok output ∧ Names output server) hm s
      fun session u hscript hindex => by
        have hlookup := inSession_lookup hm.nonce session hbin (arguments o m.environment) u
        rwa [Surroundings.next, hscript, hindex] at hlookup
    obtain ⟨ns, k, hns, hcommands⟩ := hstrays
    obtain ⟨server, port, ⟨output, houtput, hnames⟩, hcommand⟩ :=
      hcommands _ ((hns.mem_since rfl).mp hmem) rfl
    exact ⟨output, server, port, houtput, hnames, hcommand⟩

/-- The output of a lookup that finds the server side in a directory with a blank in its name. -/
def spacedOutput : Bytes := Bytes.ofAscii "/opt/my tools/cpud\n"

theorem client_lookup_spaced :
    (Program.means []).Plain { ordinary with bin := "" } ∧
      Text.lastLine? (Utf8.decodeLossy spacedOutput) = some "/opt/my tools/cpud".toList ∧
      (exec (findServer fun _ => pure spacedOutput : Act Float String) willing).1 =
        .ok "tools/cpud" ∧
      ¬ Names spacedOutput "/opt/my tools/cpud" := by
  have hplain := means_plain [] { ordinary with bin := "" }
  have hline : Text.lastLine? (Utf8.decodeLossy spacedOutput) =
      some "/opt/my tools/cpud".toList := by
    decide
  have hnames : Names spacedOutput "tools/cpud" := ⟨_, hline, by decide⟩
  obtain ⟨hfound, hwhole, -⟩ := client_lookup hplain rfl willing
  refine ⟨hplain, hline, ((hfound _ willing spacedOutput rfl).2 _).mpr hnames, fun h => ?_⟩
  have hblank := (hwhole spacedOutput _ hline).mp h ' ' (by decide)
  exact absurd hblank (by decide)

end Run

end Tether
