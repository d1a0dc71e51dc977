import Tether.Options.Check

/-! # What checking options finds

Each option gets its own verdict. If there are problems, all of them are reported, each option
once and in the order of declaration; otherwise the options hold what the checks give.
-/

namespace Tether.Options

variable {α : Type}

def fault? : Checked α → Option Fault
  | .ok _ => none
  | .error f => some f

@[simp] theorem fault?_ok (x : α) : fault? (.ok x : Checked α) = none := rfl

@[simp] theorem fault?_error (f : Fault) : fault? (.error f : Checked α) = some f := rfl

theorem fault?_eq_none_iff {c : Checked α} : fault? c = none ↔ ∃ x, c = .ok x := by
  cases c <;> simp

def listed (verdicts : List (String × Option Fault)) : List Problem :=
  verdicts.flatMap fun v => v.2.toList.map fun f => ⟨v.1, f⟩

theorem problem_eq (name : String) (c : Checked α) :
    problem name c = (fault? c).toList.map fun f => ⟨name, f⟩ := by
  cases c <;> rfl

theorem listed_eq_nil {verdicts : List (String × Option Fault)} :
    listed verdicts = [] ↔ ∀ v ∈ verdicts, v.2 = none := by
  simp [listed]

theorem map_option_listed (verdicts : List (String × Option Fault)) :
    (listed verdicts).map (·.option) = (verdicts.filter (·.2.isSome)).map (·.1) := by
  induction verdicts with
  | nil => rfl
  | cons v rest ih =>
    obtain ⟨name, _ | f⟩ := v
    · exact ih
    · exact congrArg (name :: ·) ih

theorem ok_bind {β : Type} (x : α) (g : α → Checked β) : (.ok x : Checked α) >>= g = g x := rfl

section

variable (given : Given)

def verdicts : List (String × Option Fault) :=
  [("host", fault? (required given checkHost "host")),
    ("command", fault? (option given checkText "command" "")),
    ("user", fault? (option given checkText "user" "")),
    ("bin", fault? (option given checkText "bin" defaultBin)),
    ("debug", fault? (option given checkSwitch "debug" false)),
    ("dbg9p", fault? (option given checkSwitch "dbg9p" false)),
    ("dump", fault? (option given checkSwitch "dump" false)),
    ("key_file", fault? (required given checkPath "key_file")),
    ("host_key_file", fault? (option given checkOptionalPath "host_key_file" none)),
    ("insecure", fault? (option given checkSwitch "insecure" false)),
    ("mountopts", fault? (option given checkText "mountopts" "")),
    ("msize", fault? (option given (checkAtLeast 4096) "msize" defaultMsize)),
    ("network", fault? (option given checkNetwork "network" .tcp)),
    ("port", fault? (option given (checkPort 1) "port" defaultPort)),
    ("port9p", fault? (option given (checkPort 0) "port9p" 0)),
    ("root", fault? (option given checkPath "root" { root := "/" })),
    ("timeout9p", fault? (option given checkTimeout "timeout9p" 0.1))]

def problems : List Problem :=
  listed (verdicts given) ++ (unknownNames given).map (⟨·, .unknown⟩)

/-- Options whose fields are what the checks give. -/
structure IsChecked (o : ClientOptions) : Prop where
  host : required given checkHost "host" = .ok o.host
  command : option given checkText "command" "" = .ok o.command
  user : option given checkText "user" "" = .ok o.user
  bin : option given checkText "bin" defaultBin = .ok o.bin
  debug : option given checkSwitch "debug" false = .ok o.debug
  dbg9p : option given checkSwitch "dbg9p" false = .ok o.dbg9p
  dump : option given checkSwitch "dump" false = .ok o.dump
  keyFile : required given checkPath "key_file" = .ok o.keyFile
  hostKeyFile : option given checkOptionalPath "host_key_file" none = .ok o.hostKeyFile
  insecure : option given checkSwitch "insecure" false = .ok o.insecure
  mountopts : option given checkText "mountopts" "" = .ok o.mountopts
  msize : option given (checkAtLeast 4096) "msize" defaultMsize = .ok o.msize
  network : option given checkNetwork "network" .tcp = .ok o.network
  port : option given (checkPort 1) "port" defaultPort = .ok o.port
  port9p : option given (checkPort 0) "port9p" 0 = .ok o.port9p
  root : option given checkPath "root" { root := "/" } = .ok o.root
  timeout9p : option given checkTimeout "timeout9p" 0.1 = .ok o.timeout9p

variable {given} {o : ClientOptions}

theorem check_of_problems (h : problems given ≠ []) : check given = .error (problems given) := by
  simp only [problems, listed, verdicts, List.flatMap_cons, List.flatMap_nil, ← problem_eq,
    List.append_nil, ← List.append_assoc] at h ⊢
  unfold check
  dsimp only
  split
  case h_1 hnone _ => exact absurd hnone h
  case h_2 => rfl

theorem check_of_isChecked (h : IsChecked given o) (hnames : unknownNames given = []) :
    check given = if o.debug && o.dump then .error [⟨"", .exclusive⟩] else .ok o := by
  unfold check
  simp only [h.host, h.command, h.user, h.bin, h.debug, h.dbg9p, h.dump, h.keyFile,
    h.hostKeyFile, h.insecure, h.mountopts, h.msize, h.network, h.port, h.port9p, h.root,
    h.timeout9p, hnames, problem, List.map_nil, List.append_nil, ok_bind, pure, Except.pure]

theorem exists_isChecked (h : problems given = []) : ∃ o, IsChecked given o := by
  have hverdicts := (List.append_eq_nil_iff.mp h).1
  simp only [listed_eq_nil, verdicts, List.forall_mem_cons, fault?_eq_none_iff] at hverdicts
  obtain ⟨⟨_, host⟩, ⟨_, command⟩, ⟨_, user⟩, ⟨_, bin⟩, ⟨_, debug⟩, ⟨_, dbg9p⟩, ⟨_, dump⟩,
    ⟨_, keyFile⟩, ⟨_, hostKeyFile⟩, ⟨_, insecure⟩, ⟨_, mountopts⟩, ⟨_, msize⟩, ⟨_, network⟩,
    ⟨_, port⟩, ⟨_, port9p⟩, ⟨_, root⟩, ⟨_, timeout9p⟩, -⟩ := hverdicts
  exact ⟨⟨_, _, _, _, _, _, _, _, _, _, _, _, _, _, _, _, _⟩, ⟨host, command, user, bin, debug,
    dbg9p, dump, keyFile, hostKeyFile, insecure, mountopts, msize, network, port, port9p, root,
    timeout9p⟩⟩

theorem check_eq_ok (h : check given = .ok o) :
    IsChecked given o ∧ (o.debug && o.dump) = false := by
  have hproblems : problems given = [] := by
    by_cases hnone : problems given = []
    · exact hnone
    · rw [check_of_problems hnone] at h
      cases h
  obtain ⟨o', hchecked⟩ := exists_isChecked hproblems
  have hnames : unknownNames given = [] := by
    simpa using (List.append_eq_nil_iff.mp hproblems).2
  rw [check_of_isChecked hchecked hnames] at h
  split at h
  case isTrue => cases h
  case isFalse hboth =>
    cases h
    exact ⟨hchecked, Bool.eq_false_iff.mpr hboth⟩

end

/-! ### What stands a check -/

section

variable {β : Type} {v : Value}

theorem bind_eq_ok {c : Checked α} {g : α → Checked β} {y : β} (h : c >>= g = .ok y) :
    ∃ x, c = .ok x ∧ g x = .ok y := by
  cases c with
  | error f => cases h
  | ok x => exact ⟨x, rfl, h⟩

theorem ne_empty_of_checkHost {s : String} (h : checkHost v = .ok s) : s ≠ "" := by
  obtain ⟨t, -, ht⟩ := bind_eq_ok h
  split at ht
  case isTrue => cases ht
  case isFalse hne =>
    cases ht
    exact hne

theorem le_of_checkAtLeast {low n : Nat} (h : checkAtLeast low v = .ok n) : low ≤ n := by
  obtain ⟨m, -, hm⟩ := bind_eq_ok h
  split at hm
  case isTrue => cases hm
  case isFalse hlow =>
    cases hm
    omega

theorem mem_range_of_checkPort {low n : Nat} (h : checkPort low v = .ok n) :
    low ≤ n ∧ n ≤ 65535 := by
  obtain ⟨m, hlow, hm⟩ := bind_eq_ok h
  split at hm
  case isTrue => cases hm
  case isFalse hhigh =>
    cases hm
    exact ⟨le_of_checkAtLeast hlow, Nat.le_of_not_lt hhigh⟩

theorem pos_of_checkTimeout {t : Float} (h : checkTimeout v = .ok t) : 0 < t := by
  obtain ⟨u, -, hu⟩ := bind_eq_ok h
  split at hu
  case isTrue hpos =>
    cases hu
    exact hpos
  case isFalse => cases hu

theorem fault?_checkHost_text {s : String} : fault? (checkHost (.text s)) = none ↔ s ≠ "" := by
  show fault? (if s = "" then .error .emptyText else .ok s) = none ↔ s ≠ ""
  split <;> simp [*]

theorem checkAtLeast_int (low : Nat) (n : Int) :
    checkAtLeast low (.int n) = if n < low then .error (.below low) else .ok n.toNat := rfl

theorem fault?_checkAtLeast_int {low : Nat} {n : Int} :
    fault? (checkAtLeast low (.int n)) = none ↔ low ≤ n := by
  rw [checkAtLeast_int]
  split <;> simp <;> omega

theorem fault?_checkPort_int {low : Nat} {n : Int} :
    fault? (checkPort low (.int n)) = none ↔ low ≤ n ∧ n ≤ 65535 := by
  rw [checkPort, checkAtLeast_int]
  split
  case isTrue hlow =>
    simp [bind, Except.bind]
    omega
  case isFalse hlow =>
    show fault? (if n.toNat > 65535 then .error (.above 65535) else .ok n.toNat) = none ↔ _
    split <;> simp <;> omega

theorem fault?_checkTimeout_text {s : String} :
    fault? (checkTimeout (.text s)) = none ↔
      ∃ d, Duration.read? s = some d ∧ 0 < (d.seconds : Float) := by
  rw [checkTimeout, secondsOf]
  cases Duration.read? s with
  | none => simp [bind, Except.bind]
  | some d =>
    show fault? (if 0 < (d.seconds : Float) then .ok d.seconds else .error .notPositive) = none ↔ _
    split <;> simp [*]

end

end Tether.Options
