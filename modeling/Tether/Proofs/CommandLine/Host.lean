import Tether.CommandLine.Arguments

/-! # The words after the host

A command line is read in two halves. The options and the host are acted on as if nothing
followed them; what follows the host is the remote command, and none of it is acted on.
-/

namespace Tether.CommandLine

/-! ### The role of a word -/

theorem flag?_spelling (f : Flag) :
    ∀ s ∈ f.spellings, s.toList.head? = some '-' ∧ s.toList ≠ ['-'] ∧ s ≠ "--" ∧
      flag? s.toList = some f := by
  cases f <;> decide

theorem roleOf_spelling {f : Flag} {s : String} (hs : s ∈ f.spellings) :
    roleOf s.toList = .ok (.option f s.toList none) := by
  obtain ⟨hhead, hlone, -, hflag⟩ := flag?_spelling f s hs
  simp [roleOf, exactReading?, hhead, hlone, hflag, Reading.role]

theorem roleOf_plain {cs : List Char} (h : cs.head? ≠ some '-') : roleOf cs = .ok .plain := by
  simp [roleOf, h]

theorem roleOf_ne_separator (cs : List Char) : roleOf cs ≠ .ok .separator := by
  unfold roleOf unmatched Reading.role
  grind

theorem ne_separator_of_head? {v : String} (h : v.toList.head? ≠ some '-') : v ≠ "--" := by
  rintro rfl
  exact h (by decide)

/-! ### Words read one after the other -/

theorem wordsOf_cons {s : String} {role : Role} (hs : s ≠ "--") (hrole : roleOf s.toList = .ok role)
    (rest : List String) : wordsOf (s :: rest) = (wordsOf rest).map (⟨s, role⟩ :: ·) := by
  simp [wordsOf, hs, hrole]

/-- The ways to read a first word: as the separator, or in its role before words that can be read
themselves. -/
theorem wordsOf_cases {s : String} {rest : List String} {ws : List Word}
    (h : wordsOf (s :: rest) = .ok ws) :
    (s = "--" ∧ ws = ⟨s, .separator⟩ :: rest.map (⟨·, .plain⟩)) ∨
      (s ≠ "--" ∧ ∃ role words, roleOf s.toList = .ok role ∧ wordsOf rest = .ok words ∧
        ws = ⟨s, role⟩ :: words) := by
  rw [wordsOf] at h
  split at h
  case isTrue hs =>
    cases h
    exact .inl ⟨hs, rfl⟩
  case isFalse hs =>
    split at h
    case h_1 => cases h
    case h_2 role hrole =>
      cases hrest : wordsOf rest with
      | error doubt =>
        rw [hrest] at h
        cases h
      | ok words =>
        rw [hrest] at h
        cases h
        exact .inr ⟨hs, role, words, hrole, rfl, rfl⟩

theorem exists_of_wordsOf {s : String} {role : Role} {rest : List String} {ws : List Word}
    (hs : s ≠ "--") (hrole : roleOf s.toList = .ok role) (hws : wordsOf (s :: rest) = .ok ws) :
    ∃ words, wordsOf rest = .ok words ∧ ws = ⟨s, role⟩ :: words := by
  obtain ⟨hsep, -⟩ | ⟨-, role', words, hrole', hwords, rfl⟩ := wordsOf_cases hws
  · exact absurd hsep hs
  · rw [hrole] at hrole'
    cases hrole'
    exact ⟨words, hwords, rfl⟩

theorem wordsOf_texts {argv : List String} {ws : List Word} (h : wordsOf argv = .ok ws) :
    ws.map (·.text) = argv := by
  induction argv generalizing ws with
  | nil =>
    cases h
    rfl
  | cons s rest ih =>
    obtain ⟨rfl, rfl⟩ | ⟨-, role, words, -, hwords, rfl⟩ := wordsOf_cases h
    · simp [Function.comp_def]
    · simp [ih hwords]

theorem separator_iff {text : String} {role : Role} {argv : List String} {ws : List Word}
    (h : wordsOf argv = .ok (⟨text, role⟩ :: ws)) : role = .separator ↔ text = "--" := by
  cases argv with
  | nil => cases h
  | cons s rest =>
    obtain ⟨hs, hws⟩ | ⟨hs, role', words, hrole, -, hws⟩ := wordsOf_cases h
    · cases hws
      simp [hs]
    · cases hws
      have hrole : role ≠ .separator := fun hsep => roleOf_ne_separator _ (hsep ▸ hrole)
      simp [hs, hrole]

/-- Options spelt in full, each followed by its value if it takes one. -/
inductive Flags : List String → Prop
  | nil : Flags []
  | switch {f : Flag} {s : String} {rest : List String} (hf : f.isSwitch = true)
    (hs : s ∈ f.spellings) (h : Flags rest) : Flags (s :: rest)
  | value {f : Flag} {s v : String} {rest : List String} (hf : f.isSwitch = false)
    (hs : s ∈ f.spellings) (hv : v.toList.head? ≠ some '-') (h : Flags rest) :
    Flags (s :: v :: rest)

inductive FlagWords : List Word → Prop
  | nil : FlagWords []
  | switch {f : Flag} {s : String} {spelling : List Char} {rest : List Word}
    (hf : f.isSwitch = true) (h : FlagWords rest) :
    FlagWords (⟨s, .option f spelling none⟩ :: rest)
  | value {f : Flag} {s v : String} {spelling : List Char} {rest : List Word}
    (hf : f.isSwitch = false) (h : FlagWords rest) :
    FlagWords (⟨s, .option f spelling none⟩ :: ⟨v, .plain⟩ :: rest)

theorem Flags.words {argv : List String} (h : Flags argv) :
    ∃ ws, FlagWords ws ∧ ∀ rest, wordsOf (argv ++ rest) = (wordsOf rest).map (ws ++ ·) := by
  induction h with
  | nil =>
    refine ⟨[], .nil, fun rest => ?_⟩
    rw [List.nil_append]
    cases wordsOf rest <;> rfl
  | @switch f s argv hf hs h ih =>
    obtain ⟨ws, hws, hread⟩ := ih
    refine ⟨⟨s, .option f s.toList none⟩ :: ws, .switch hf hws, fun rest => ?_⟩
    rw [List.cons_append, wordsOf_cons (flag?_spelling f s hs).2.2.1 (roleOf_spelling hs), hread]
    cases wordsOf rest <;> rfl
  | @value f s v argv hf hs hv h ih =>
    obtain ⟨ws, hws, hread⟩ := ih
    refine ⟨⟨s, .option f s.toList none⟩ :: ⟨v, .plain⟩ :: ws, .value hf hws, fun rest => ?_⟩
    rw [List.cons_append, wordsOf_cons (flag?_spelling f s hs).2.2.1 (roleOf_spelling hs),
      List.cons_append, wordsOf_cons (ne_separator_of_head? hv) (roleOf_plain hv), hread]
    cases wordsOf rest <;> rfl

/-! ### Acting on the words -/

theorem consume_switch {f : Flag} (hf : f.isSwitch = true) (a : Arguments) (strays : List String)
    (s : String) (spelling : List Char) (rest : List Word) :
    a.consume strays (⟨s, .option f spelling none⟩ :: rest) =
      match a.switch f with
      | .error e => .error e
      | .ok a => a.consume strays rest := by
  rw [Arguments.consume.eq_def]
  dsimp only
  cases a.switch f <;> simp only [if_pos hf]

theorem consume_flagWords {ws : List Word} (hws : FlagWords ws) {w : Word} (hw : w.role = .plain)
    (a : Arguments) (strays : List String) :
    (∃ e, ∀ tail, a.consume strays (ws ++ w :: tail) = .error e) ∨
      ∃ b : Arguments, ∀ tail, a.consume strays (ws ++ w :: tail) =
        .ok (b.positionals (w :: tail), strays) := by
  induction hws generalizing a with
  | nil =>
    obtain ⟨text, role⟩ := w
    cases hw
    exact .inr ⟨a, fun tail => by simp [Arguments.consume]⟩
  | @switch f s spelling rest hf h ih =>
    cases hset : a.switch f with
    | error e => exact .inl ⟨e, fun tail => by simp [consume_switch hf, hset]⟩
    | ok b => simpa [consume_switch hf, hset] using ih b
  | @value f s v spelling rest hf h ih =>
    cases hset : a.set f v with
    | error e => exact .inl ⟨e, fun tail => by simp [Arguments.consume, hf, hset]⟩
    | ok b => simpa [Arguments.consume, hf, hset] using ih b

/-- The remote command that words after the host make: they are taken as they are, but for one
separator at their front. -/
def remoteWords : List String → List String
  | [] => []
  | s :: rest => if s = "--" then rest else s :: rest

theorem positionals_host (a : Arguments) (host : String) {words : List String} {tail : List Word}
    (htail : wordsOf words = .ok tail) :
    a.positionals (⟨host, .plain⟩ :: tail) =
      { a with host := some host, command := remoteWords words } := by
  have htexts := wordsOf_texts htail
  cases tail with
  | nil =>
    subst htexts
    rfl
  | cons w rest =>
    obtain ⟨text, role⟩ := w
    have hsep : role = .separator ↔ text = "--" := separator_iff htail
    subst htexts
    by_cases h : text = "--"
    · obtain rfl := hsep.mpr h
      simp [Arguments.positionals, remoteWords, h]
    · have hrole : role ≠ .separator := mt hsep.mp h
      cases role <;> simp_all [Arguments.positionals, remoteWords]

/-- Options and a host are acted on by themselves: what follows them can only be refused as a
whole, because a word in it could mean two options, or make up the command. -/
theorem parse_host {argv : List String} (hargv : Flags argv) {host : String}
    (hhost : host.toList.head? ≠ some '-') :
    ∃ read : Except Exit Arguments, ∀ words, parse (argv ++ [host] ++ words) =
      match wordsOf words with
      | .error doubt => .error (.usage (.ambiguous doubt))
      | .ok _ => read.map fun a => { a with host := some host, command := remoteWords words } := by
  obtain ⟨ws, hws, hread⟩ := hargv.words
  have hwords (words : List String) : wordsOf (argv ++ [host] ++ words) =
      (wordsOf words).map fun tail => ws ++ ⟨host, .plain⟩ :: tail := by
    rw [List.append_assoc, hread, List.singleton_append,
      wordsOf_cons (ne_separator_of_head? hhost) (roleOf_plain hhost)]
    cases wordsOf words <;> rfl
  obtain ⟨e, he⟩ | ⟨a, ha⟩ := consume_flagWords hws (w := ⟨host, .plain⟩) rfl {} []
  · refine ⟨.error e, fun words => ?_⟩
    rw [parse, hwords]
    cases wordsOf words with
    | error doubt => rfl
    | ok tail => simp [Except.map, he]
  · refine ⟨.ok a, fun words => ?_⟩
    rw [parse, hwords]
    cases htail : wordsOf words with
    | error doubt => rfl
    | ok tail => simp [Except.map, ha, positionals_host a host htail]

/-- Words after the host never act as options: whatever they are, the settings are those that the
options before the host make, and the words are the command. After a separator they are not even
looked at. -/
theorem parse_afterHost {argv : List String} (hargv : Flags argv) {host : String}
    (hhost : host.toList.head? ≠ some '-') (words : List String) :
    (∀ a, parse (argv ++ [host] ++ words) = .ok a →
      ∃ a₀, parse (argv ++ [host]) = .ok a₀ ∧
        a = { a₀ with host := some host, command := remoteWords words }) ∧
    (words.head? = some "--" → ∀ a₀, parse (argv ++ [host]) = .ok a₀ →
      ∃ a, parse (argv ++ [host] ++ words) = .ok a) := by
  obtain ⟨read, hread⟩ := parse_host hargv hhost
  have halone : parse (argv ++ [host]) =
      read.map fun a => { a with host := some host, command := [] } := by
    simpa [wordsOf, remoteWords] using hread []
  rw [hread, halone]
  constructor
  · intro a ha
    cases hwords : wordsOf words with
    | error doubt =>
      rw [hwords] at ha
      cases ha
    | ok tail =>
      rw [hwords] at ha
      cases read with
      | error e => cases ha
      | ok b =>
        cases ha
        exact ⟨_, rfl, rfl⟩
  · intro hsep a₀ ha₀
    obtain ⟨tail, rfl⟩ : ∃ tail, words = "--" :: tail := by
      simpa [List.head?_eq_some_iff] using hsep
    cases read with
    | error e => cases ha₀
    | ok b => exact ⟨_, rfl⟩

/-- Switches, a value that looks like a command, and words that look like options. -/
theorem parse_afterHost_lookalike :
    ∃ a₀, parse ["-dbg9p", "-bin", "ls", "srv"] = .ok a₀ ∧
      parse ["-dbg9p", "-bin", "ls", "srv", "--", "-insecure", "-d", "-h", "--"] =
        .ok { a₀ with host := some "srv", command := ["-insecure", "-d", "-h", "--"] } := by
  have hflags : Flags ["-dbg9p", "-bin", "ls"] :=
    .switch (f := .dbg9p) rfl (by decide) (.value (f := .bin) rfl (by decide) (by decide) .nil)
  have hhost : "srv".toList.head? ≠ some '-' := by decide
  obtain ⟨hsame, hreturns⟩ := parse_afterHost hflags hhost ["--", "-insecure", "-d", "-h", "--"]
  obtain ⟨a, ha⟩ := hreturns rfl _ rfl
  obtain ⟨a₀, ha₀, rfl⟩ := hsame a ha
  exact ⟨a₀, ha₀, ha⟩

end Tether.CommandLine
