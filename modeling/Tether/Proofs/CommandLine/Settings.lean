import Tether.CommandLine.Settings
import Tether.Proofs.CommandLine.Parsed
import Tether.Proofs.Options.Check
import Mathlib.Data.List.Basic

/-! # Options of a command line

A command line that can be read, and does not leave the root without a value, either gives options
within their bounds or is refused with the names of all the options that it gets wrong.
-/

namespace Tether

structure ClientOptions.IsBounded (o : ClientOptions) : Prop where
  host : o.host ≠ ""
  msize : 4096 ≤ o.msize
  port : 1 ≤ o.port ∧ o.port ≤ 65535
  port9p : o.port9p ≤ 65535
  timeout9p : 0 < o.timeout9p
  exclusive : ¬ (o.debug = true ∧ o.dump = true)

namespace CommandLine

open Options

/-! ### Settings by name -/

theorem Flag.name_injective : Function.Injective Flag.name := by
  have hinverse : Function.LeftInverse (fun n => (Flag.all.find? (·.name = n)).getD .help)
      Flag.name := by
    intro f
    cases f <;> decide
  exact hinverse.injective

namespace Settings

theorem lookup_put (s : Settings) (name n : String) (v : Value) :
    (s.put name v).lookup n = (s.lookup n).map fun w => if n = name then v else w := by
  induction s with
  | nil => rfl
  | cons p s ih =>
    obtain ⟨m, w⟩ := p
    rw [put] at ih ⊢
    rw [List.map_cons, List.lookup_cons, List.lookup_cons, ih]
    by_cases h : n = m
    · simp [h]
    · have hm : (n == m) = false := by simpa using h
      simp [hm]

theorem lookup_foldl_put (fs : List Flag) (s : Settings) (n : String) :
    (fs.foldl (fun s f => s.put f.name (.words [])) s).lookup n =
      (s.lookup n).map fun w => if n ∈ fs.map Flag.name then .words [] else w := by
  induction fs generalizing s with
  | nil => simp
  | cons f fs ih =>
    rw [List.foldl_cons, ih, lookup_put, Option.map_map]
    congr 1
    funext w
    by_cases hf : n = f.name <;> simp [hf]

end Settings

variable {a : Arguments}

def Arguments.full (a : Arguments) : Settings := ({ a with emptied := [] } : Arguments).settings

def Arguments.left (a : Arguments) (f : Flag) (v : Value) : Value :=
  if f ∈ a.emptied then .words [] else v

theorem lookup_settings (n : String) :
    a.settings.lookup n =
      (a.full.lookup n).map fun w => if n ∈ a.emptied.map Flag.name then .words [] else w :=
  Settings.lookup_foldl_put a.emptied a.full n

theorem get_settings (n : String) (f : Flag) (hn : f.name = n) {v : Value}
    (hv : a.full.lookup n = some v) : a.settings.get n = a.left f v := by
  subst hn
  simp only [Settings.get, lookup_settings, hv, Option.map_some, Option.getD_some,
    List.mem_map_of_injective Flag.name_injective, Arguments.left]

theorem get_settings_of_forall_ne {n : String} (hn : ∀ f : Flag, f.name ≠ n) :
    a.settings.get n = a.full.get n := by
  have hnone : n ∉ a.emptied.map Flag.name := by
    intro hmem
    obtain ⟨f, -, hf⟩ := List.mem_map.mp hmem
    exact hn f hf
  simp [Settings.get, lookup_settings, hnone]

theorem Arguments.left_of_not_mem {f : Flag} (h : f ∉ a.emptied) (v : Value) : a.left f v = v :=
  if_neg h

/-! ### The check of each setting -/

section

variable {f : Flag}

theorem isNone_left {α : Type} {check : Value → Checked α} {v : Value} {p : Prop} [Decidable p]
    (hleft : fault? (check (.words [])) ≠ none) (hv : fault? (check v) = none ↔ p) :
    (fault? (check (a.left f v))).isNone = decide (f ∉ a.emptied ∧ p) := by
  rw [Arguments.left, Bool.eq_iff_iff, Option.isNone_iff_eq_none, decide_eq_true_iff]
  split
  case isTrue h => simp [hleft, h]
  case isFalse h => simp [hv, h]

theorem isNone_left_of_eq_none {α : Type} {check : Value → Checked α} {v : Value}
    (hleft : fault? (check (.words [])) ≠ none) (hv : fault? (check v) = none) :
    (fault? (check (a.left f v))).isNone = decide (f ∉ a.emptied) := by
  simpa using isNone_left hleft (iff_of_true hv trivial)

theorem isNone_text (t : String) :
    (fault? (checkText (a.left f (.text t)))).isNone = decide (f ∉ a.emptied) :=
  isNone_left_of_eq_none nofun rfl

theorem isNone_atLeast (low : Nat) (n : Int) :
    (fault? (checkAtLeast low (a.left f (.int n)))).isNone = decide (f ∉ a.emptied ∧ low ≤ n) :=
  isNone_left nofun fault?_checkAtLeast_int

theorem isNone_port (low : Nat) (n : Int) :
    (fault? (checkPort low (a.left f (.int n)))).isNone =
      decide (f ∉ a.emptied ∧ low ≤ n ∧ n ≤ 65535) :=
  isNone_left nofun fault?_checkPort_int

theorem isNone_timeout (t : String) :
    (fault? (checkTimeout (a.left f (.text t)))).isNone =
      decide (f ∉ a.emptied ∧
        (Duration.read? t).any fun d => 0 < (d.seconds : Float)) :=
  isNone_left nofun (fault?_checkTimeout_text.trans (by simp [Option.any_eq_true]))

/-- A path that is empty or left without a value is replaced by the standard one. -/
theorem orElse_left (t : String) (standard : Value) :
    (if (a.left f (.text t)).given then a.left f (.text t) else standard) =
      if f ∉ a.emptied ∧ t ≠ "" then .text t else standard := by
  by_cases h : f ∈ a.emptied <;> simp [Arguments.left, Value.given, h]

end

theorem isNone_host :
    (fault? (checkHost (a.settings.orElse "host" (.text "")))).isNone =
      decide (a.host.getD "" ≠ "") := by
  have hget : a.settings.get "host" = a.host.elim .null .text :=
    get_settings_of_forall_ne (by intro f; cases f <;> decide)
  rw [Settings.orElse, hget]
  cases a.host with
  | none => rfl
  | some s =>
    by_cases hs : s = ""
    · subst hs
      rfl
    · simp [Value.given, hs, fault?_checkHost_text]

theorem fault?_keyFile (env : Environment) :
    fault? (checkPath (a.settings.orElse "key" (.text (defaultKeyFile env).toString))) = none := by
  rw [Settings.orElse, get_settings "key" .key rfl rfl, orElse_left]
  split <;> rfl

theorem fault?_hostKeyFile :
    fault? (checkOptionalPath (a.settings.orElse "hk" .null)) = none := by
  rw [Settings.orElse, get_settings "hk" .hk rfl rfl, orElse_left]
  split <;> rfl

namespace Arguments.IsParsed

theorem left_switch (h : a.IsParsed) (f : Flag) (hf : f.isSwitch = true) (v : Value) :
    a.left f v = v :=
  a.left_of_not_mem (fun hmem => absurd (h.emptied f hmem) (by simp [hf])) v

theorem isNone_network (h : a.IsParsed) (f : Flag) :
    (fault? (checkNetwork (a.left f (.text a.network)))).isNone = decide (f ∉ a.emptied) := by
  obtain ⟨n, hn⟩ := h.network
  exact isNone_left_of_eq_none nofun (by simp [checkNetwork, hn])

end Arguments.IsParsed

theorem verdicts_given (s : Settings) (command : String) (env : Environment) :
    verdicts (s.given command env) =
      [("host", fault? (checkHost (s.orElse "host" (.text "")))), ("command", none),
        ("user", none), ("bin", fault? (checkText (s.get "bin"))),
        ("debug", fault? (checkSwitch (s.get "debug"))),
        ("dbg9p", fault? (checkSwitch (s.get "dbg9p"))),
        ("dump", fault? (checkSwitch (s.get "dump"))),
        ("key_file",
          fault? (checkPath (s.orElse "key" (.text (defaultKeyFile env).toString)))),
        ("host_key_file", fault? (checkOptionalPath (s.orElse "hk" .null))),
        ("insecure", fault? (checkSwitch (s.get "insecure"))),
        ("mountopts", fault? (checkText (s.get "mountopts"))),
        ("msize", fault? (checkAtLeast 4096 (s.get "msize"))),
        ("network", fault? (checkNetwork (s.get "network"))),
        ("port", fault? (checkPort 1 (s.get "sp"))),
        ("port9p", fault? (checkPort 0 (s.get "port9p"))),
        ("root", fault? (checkPath (s.get "root"))),
        ("timeout9p", fault? (checkTimeout (s.get "timeout9p")))] :=
  rfl

def Arguments.standing (a : Arguments) : List (String × Bool) :=
  [("host", a.host.getD "" ≠ ""), ("command", true), ("user", true),
    ("bin", .bin ∉ a.emptied), ("debug", true), ("dbg9p", true), ("dump", true),
    ("key_file", true), ("host_key_file", true), ("insecure", true),
    ("mountopts", .mountopts ∉ a.emptied),
    ("msize", .msize ∉ a.emptied ∧ 4096 ≤ a.msize),
    ("network", .network ∉ a.emptied),
    ("port", .sp ∉ a.emptied ∧ 1 ≤ a.sp ∧ a.sp ≤ 65535),
    ("port9p", .port9p ∉ a.emptied ∧ 0 ≤ a.port9p ∧ a.port9p ≤ 65535),
    ("root", true),
    ("timeout9p", .timeout9p ∉ a.emptied ∧
      (Duration.read? a.timeout9p).any fun d => 0 < (d.seconds : Float))]

theorem verdicts_parsed (h : a.IsParsed) (hroot : Flag.root ∉ a.emptied) (command : String)
    (env : Environment) :
    (verdicts (a.settings.given command env)).map (fun v => (v.1, v.2.isNone)) = a.standing := by
  simp only [verdicts_given, List.map_cons, List.map_nil, isNone_host, fault?_keyFile,
    fault?_hostKeyFile, get_settings "bin" .bin rfl rfl, get_settings "debug" .debug rfl rfl,
    get_settings "dbg9p" .dbg9p rfl rfl, get_settings "dump" .dump rfl rfl,
    get_settings "insecure" .insecure rfl rfl, get_settings "mountopts" .mountopts rfl rfl,
    get_settings "msize" .msize rfl rfl, get_settings "network" .network rfl rfl,
    get_settings "sp" .sp rfl rfl, get_settings "port9p" .port9p rfl rfl,
    get_settings "root" .root rfl rfl, get_settings "timeout9p" .timeout9p rfl rfl,
    isNone_text, isNone_atLeast, isNone_port, isNone_timeout, h.isNone_network,
    h.left_switch .debug rfl, h.left_switch .dbg9p rfl, h.left_switch .dump rfl,
    h.left_switch .insecure rfl, a.left_of_not_mem hroot]
  rfl

/-! ### What comes of a command line -/

/-- The options that a command line gets wrong, in the order of declaration. -/
def Arguments.violated (a : Arguments) : List String :=
  (a.standing.filter (!·.2)).map (·.1)

theorem violated_sublist : a.violated.Sublist names :=
  (List.filter_sublist.map _ : List.Sublist _ (a.standing.map (·.1)))

/-- The conditions on a command line. -/
structure Arguments.IsAcceptable (a : Arguments) : Prop where
  host : a.host.getD "" ≠ ""
  msize : 4096 ≤ a.msize
  sp : 1 ≤ a.sp ∧ a.sp ≤ 65535
  port9p : 0 ≤ a.port9p ∧ a.port9p ≤ 65535
  timeout9p : ∃ d, Duration.read? a.timeout9p = some d ∧ 0 < (d.seconds : Float)
  emptied : ∀ f ∈ a.emptied, f = .key ∨ f = .hk

theorem violated_eq_nil_iff (h : a.IsParsed) (hroot : Flag.root ∉ a.emptied) :
    a.violated = [] ↔ a.IsAcceptable := by
  simp only [Arguments.violated, Arguments.standing, List.map_eq_nil_iff, List.filter_eq_nil_iff,
    List.forall_mem_cons, Bool.not_eq_true', Bool.not_eq_false, decide_eq_true_eq, true_and]
  constructor
  · rintro ⟨host, bin, mountopts, msize, network, sp, port9p, timeout9p, -⟩
    refine ⟨host, msize.2, sp.2, port9p.2, ?_, fun f hf => ?_⟩
    · simpa [Option.any_eq_true] using timeout9p.2
    · have hswitch := h.emptied f hf
      cases f <;> simp_all [Flag.isSwitch]
  · intro hacceptable
    have hgiven (f : Flag) (hf : f ≠ .key ∧ f ≠ .hk) : f ∉ a.emptied := fun hmem =>
      (hacceptable.emptied f hmem).elim hf.1 hf.2
    have htimeout : (Duration.read? a.timeout9p).any (fun d => 0 < (d.seconds : Float)) = true := by
      simpa [Option.any_eq_true] using hacceptable.timeout9p
    exact ⟨hacceptable.host, hgiven _ (by decide), hgiven _ (by decide),
      ⟨hgiven _ (by decide), hacceptable.msize⟩, hgiven _ (by decide),
      ⟨hgiven _ (by decide), hacceptable.sp⟩, ⟨hgiven _ (by decide), hacceptable.port9p⟩,
      ⟨hgiven _ (by decide), htimeout⟩, by simp⟩

theorem options_eq (hroot : Flag.root ∉ a.emptied) (env : Environment) :
    a.settings.options env =
      (check (a.settings.given (String.intercalate " " a.command) env)).mapError
        fun ps => .configuration (.options ps) := by
  have hcommand : a.settings.get "command" = .words a.command :=
    get_settings_of_forall_ne (by intro f; cases f <;> decide)
  have hpath (f : Flag) (t : String) :
      (!(a.left f (.text t)).given || Settings.isText (a.left f (.text t))) = true := by
    unfold Arguments.left
    split <;> simp [Settings.isText, Value.given]
  have hpaths : a.settings.pathsUsable = true := by
    simp only [Settings.pathsUsable, List.all_cons, List.all_nil, get_settings "key" .key rfl rfl,
      get_settings "hk" .hk rfl rfl, get_settings "root" .root rfl rfl, hpath,
      a.left_of_not_mem hroot]
    rfl
  rw [Settings.options, hcommand]
  simp only [Settings.joined, hpaths, if_true]
  cases check (a.settings.given (String.intercalate " " a.command) env) <;> rfl

theorem Settings.isBounded_of_options {s : Settings} {env : Environment} {o : ClientOptions}
    (h : s.options env = .ok o) : o.IsBounded := by
  obtain ⟨command, hcheck⟩ : ∃ command, check (s.given command env) = .ok o := by
    rw [Settings.options] at h
    split at h
    case h_1 => cases h
    case h_2 command _ =>
      split at h
      case isTrue =>
        split at h
        case h_1 hcheck =>
          cases h
          exact ⟨command, hcheck⟩
        case h_2 => cases h
      case isFalse => cases h
  obtain ⟨hchecked, hexclusive⟩ := check_eq_ok hcheck
  exact {
    host := ne_empty_of_checkHost hchecked.host
    msize := le_of_checkAtLeast hchecked.msize
    port := mem_range_of_checkPort hchecked.port
    port9p := (mem_range_of_checkPort hchecked.port9p).2
    timeout9p := pos_of_checkTimeout hchecked.timeout9p
    exclusive := by simpa using hexclusive }

theorem unknownNames_given (s : Settings) (command : String) (env : Environment) :
    unknownNames (s.given command env) = [] := rfl

/-- The problems that are found are those of the options that the command line gets wrong. -/
theorem map_option_problems (h : a.IsParsed) (hroot : Flag.root ∉ a.emptied) (command : String)
    (env : Environment) :
    (problems (a.settings.given command env)).map (·.option) = a.violated := by
  rw [problems, unknownNames_given, List.map_nil, List.append_nil, map_option_listed,
    Arguments.violated, ← verdicts_parsed h hroot command env, List.filter_map, List.map_map]
  congr 2
  funext v
  simp

theorem switch_of_check (h : a.IsParsed) (n : String) (f : Flag) (hn : f.name = n)
    (hf : f.isSwitch = true) {b c : Bool}
    (hv : a.full.lookup n = some (.bool b))
    (hc : checkSwitch (a.settings.get n) = .ok c) : c = b := by
  rw [get_settings n f hn hv, h.left_switch f hf] at hc
  cases hc
  rfl

theorem check_parsed (h : a.IsParsed) (hroot : Flag.root ∉ a.emptied) (command : String)
    (env : Environment) :
    (a.violated = [] ∧ ∃ o, check (a.settings.given command env) = .ok o) ∨
      (a.violated ≠ [] ∧ ∃ ps, check (a.settings.given command env) = .error ps ∧
        ps.map (·.option) = a.violated) := by
  have hnames := map_option_problems h hroot command env
  by_cases hproblems : problems (a.settings.given command env) = []
  · obtain ⟨o, hchecked⟩ := exists_isChecked hproblems
    have hdebug : o.debug = a.debug := switch_of_check h "debug" .debug rfl rfl rfl hchecked.debug
    have hdump : o.dump = a.dump := switch_of_check h "dump" .dump rfl rfl rfl hchecked.dump
    have hboth : ¬ (o.debug && o.dump) = true := by simp [hdebug, hdump, h.exclusive]
    rw [hproblems] at hnames
    refine .inl ⟨hnames.symm, o, ?_⟩
    rw [check_of_isChecked hchecked (unknownNames_given _ _ _), if_neg hboth]
  · refine .inr ⟨?_, _, check_of_problems hproblems, hnames⟩
    rw [← hnames]
    simpa using hproblems

theorem reportText_of_sublist {ps : List Problem} (h : (ps.map (·.option)).Sublist names) :
    reportText ps = "invalid options: " ++ String.intercalate "; "
      (ps.map fun p => p.option ++ ": " ++ p.fault.text) := by
  have htext : ∀ p ∈ ps, p.text = p.option ++ ": " ++ p.fault.text := by
    intro p hp
    have hne : p.option ≠ "" := fun hempty =>
      absurd (h.subset (List.mem_map_of_mem hp)) (by rw [hempty]; decide)
    rw [Problem.text, if_neg hne]
  unfold reportText
  rw [List.map_congr_left htext]

/-- A command line that can be read gives options exactly if it meets the conditions, and they
keep their bounds. Otherwise it is refused with the names of all the options that it gets wrong,
the first of which is to blame. It has to leave the root a value. -/
theorem options_parsed {argv : List String} {a : Arguments} (hparse : parse argv = .ok a)
    (hroot : Flag.root ∉ a.emptied) (env : Environment) :
    ((∃ o, a.settings.options env = .ok o) ↔ a.IsAcceptable) ∧
      (∀ o, a.settings.options env = .ok o → o.IsBounded) ∧
      ∀ e, a.settings.options env = .error e → ∃ ps, e = .configuration (.options ps) ∧
        ps.map (·.option) = a.violated ∧ a.violated.Sublist names ∧
        a.violated.head? = some (Misconfiguration.options ps).option ∧
        e.text = "invalid options: " ++ String.intercalate "; "
          (ps.map fun p => p.option ++ ": " ++ p.fault.text) := by
  have h : a.IsParsed := Arguments.isParsed_of_parse hparse
  have hviolated := violated_eq_nil_iff h hroot
  have hoptions := options_eq hroot env
  refine ⟨?_, fun o ho => Settings.isBounded_of_options ho, ?_⟩
  · rw [← hviolated, hoptions]
    obtain ⟨hnone, o, ho⟩ | ⟨hsome, ps, hps, -⟩ :=
      check_parsed h hroot (String.intercalate " " a.command) env
    · simp [ho, hnone, Except.mapError]
    · simp [hps, hsome, Except.mapError]
  · intro e he
    obtain ⟨-, o, ho⟩ | ⟨hsome, ps, hps, hnames⟩ :=
      check_parsed h hroot (String.intercalate " " a.command) env
    · rw [hoptions, ho] at he
      cases he
    · rw [hoptions, hps] at he
      cases he
      refine ⟨ps, rfl, hnames, violated_sublist, ?_,
        reportText_of_sublist (hnames ▸ violated_sublist)⟩
      rw [← hnames, List.head?_map, Misconfiguration.option, blamed]
      cases ps with
      | nil => exact absurd hnames.symm hsome
      | cons p ps => rfl

/-- What a command line comes to that names no host, too small a message size, and neither a port
nor a time limit after their options. -/
def hostless : Arguments where
  msize := 1
  host := some ""
  emptied := [.timeout9p, .sp]

/-- All four are reported. -/
theorem options_parsed_hostless :
    parse ["-msize", "1", "-sp=--", "-timeout9p=--", ""] = .ok hostless ∧
      Flag.root ∉ hostless.emptied ∧ ¬ hostless.IsAcceptable ∧
      ∃ ps, hostless.settings.options [("USER", "glenda")] =
          .error (.configuration (.options ps)) ∧
        ps.map (·.option) = ["host", "msize", "port", "timeout9p"] := by
  have hparse : parse ["-msize", "1", "-sp=--", "-timeout9p=--", ""] = .ok hostless := by
    decide +kernel
  have hroot : Flag.root ∉ hostless.emptied := by decide
  have hunacceptable : ¬ hostless.IsAcceptable := fun hacceptable => hacceptable.host rfl
  have hviolated : hostless.violated = ["host", "msize", "port", "timeout9p"] := by
    decide +kernel
  obtain ⟨haccepts, -, hrefuses⟩ := options_parsed hparse hroot [("USER", "glenda")]
  refine ⟨hparse, hroot, hunacceptable, ?_⟩
  cases hoptions : hostless.settings.options [("USER", "glenda")] with
  | ok o => exact absurd (haccepts.mp ⟨o, hoptions⟩) hunacceptable
  | error e =>
    obtain ⟨ps, rfl, hnames, -⟩ := hrefuses e hoptions
    exact ⟨ps, rfl, hnames.trans hviolated⟩

/-- An option that is left without a value is named, whether or not its values have bounds; a root
that is left without one is no fault of the configuration. -/
theorem options_withoutValue :
    (∃ a, parse ["-bin=--", ""] = .ok a ∧ ∃ ps,
        a.settings.options [] = .error (.configuration (.options ps)) ∧
          "bin" ∈ ps.map (·.option)) ∧
      ∃ a, parse ["-root=--", ""] = .ok a ∧ a.settings.options [] = .error .unusable := by
  constructor
  · have hparse : parse ["-bin=--", ""] = .ok { host := some "", emptied := [.bin] } := rfl
    have hroot : Flag.root ∉ [Flag.bin] := by decide
    obtain ⟨hnone, -⟩ | ⟨-, ps, hps, hnames⟩ :=
      check_parsed (Arguments.isParsed_of_parse hparse) hroot "" []
    · exact absurd hnone (List.ne_nil_of_mem (a := "bin") (by decide))
    · refine ⟨_, hparse, ps, ?_, ?_⟩
      · rw [options_eq hroot]
        exact congrArg (Except.mapError _) hps
      · rw [hnames]
        decide
  · exact ⟨_, rfl, rfl⟩

end CommandLine

end Tether
