import Tether.CommandLine.Help
import Tether.Proofs.CommandLine.Deeds
import Tether.Proofs.CommandLine.Doubt
import Tether.Proofs.CommandLine.Settings
import Mathlib.Data.List.Chain

/-! # How the command line is left

A command line that does not lead to a run tells what was asked for, if nothing was wrong before
that, or it is refused with the help and one line on the fault, whatever the faulty words are.
-/

namespace Tether.CommandLine

/-! ### Faults on one line -/

theorem lf_notMem_fixed (width n : Nat) : '\n' ∉ Hex.fixed width n := by
  have hdigit : ∀ n < 16, '\n' ≠ Hex.digit n := by decide
  induction width generalizing n with
  | zero => exact List.not_mem_nil
  | succ w ih => simp [Hex.fixed, ih, hdigit _ (Nat.mod_lt n (by decide))]

theorem lf_notMem_escapeChar {q : Char} (hq : q ≠ '\n') (c : Char) :
    '\n' ∉ Text.escapeChar q c := by
  unfold Text.escapeChar
  split
  case isTrue hc =>
    have hc : '\n' ≠ c := by
      rintro rfl
      simp [Ne.symm hq] at hc
    simp [hc]
  case isFalse => split_ifs <;> simp [lf_notMem_fixed, eq_comm, *]

/-- A text without line feeds. -/
def IsOneLine (s : String) : Prop := '\n' ∉ s.toList

namespace IsOneLine

variable {s t : String}

theorem append (hs : IsOneLine s) (ht : IsOneLine t) : IsOneLine (s ++ t) := by
  simp_all [IsOneLine]

theorem of_chars {cs : List Char} (hs : s = String.ofList cs) (hcs : '\n' ∉ cs) : IsOneLine s := by
  rwa [hs, IsOneLine, String.toList_ofList]

theorem intercalate {ts : List String} (hs : IsOneLine s) (hts : ∀ t ∈ ts, IsOneLine t) :
    IsOneLine (s.intercalate ts) := by
  rw [IsOneLine, String.toList_intercalate]
  induction ts with
  | nil => simp
  | cons t ts ih =>
    have ht : '\n' ∉ t.toList := hts t List.mem_cons_self
    cases ts with
    | nil => simpa using ht
    | cons t' ts =>
      rw [List.map_cons, List.map_cons, List.intercalate_cons_cons, List.mem_append,
        List.mem_append, not_or, not_or]
      exact ⟨⟨ht, hs⟩, ih fun u hu => hts u (List.mem_cons_of_mem t hu)⟩

theorem quoted (s : String) : IsOneLine (Text.quoted s) := by
  have hquote : Text.quoteOf s.toList ≠ '\n' := by
    unfold Text.quoteOf
    split <;> decide
  refine of_chars rfl ?_
  simp [Text.quotedChars, lf_notMem_escapeChar hquote, Ne.symm hquote]

theorem title (f : Flag) : IsOneLine f.title := by
  unfold IsOneLine
  cases f <;> decide

theorem aboutFlag (f : Flag) (ht : IsOneLine t) : IsOneLine (aboutFlag f t) :=
  (((of_chars rfl (by decide)).append (title f)).append (of_chars rfl (by decide))).append ht

end IsOneLine

open IsOneLine in
theorem UsageError.isOneLine_text {u : UsageError} (h : u.IsOfFlag) : IsOneLine u.text := by
  cases u with
  | ambiguous | unrecognized => exact h.elim
  | missingValue f => exact .aboutFlag f (.of_chars rfl (by decide))
  | strayValue f v => exact .aboutFlag f (.append (.of_chars rfl (by decide)) (.quoted v))
  | notInteger f v => exact .aboutFlag f (.append (.of_chars rfl (by decide)) (.quoted v))
  | notNetwork v =>
    have hall : ∀ t ∈ Network.all.map fun n => Text.quoted n.toString, IsOneLine t := by
      rintro t ht
      obtain ⟨n, -, rfl⟩ := List.mem_map.mp ht
      exact .quoted _
    have hchosen : IsOneLine s!"invalid choice: {Text.quoted v} (choose from " :=
      ((of_chars rfl (by decide)).append (quoted v)).append (of_chars rfl (by decide))
    exact .aboutFlag .network ((hchosen.append
      (intercalate (of_chars rfl (by decide)) hall)).append (of_chars rfl (by decide)))
  | conflict f g => exact .aboutFlag f (.append (.of_chars rfl (by decide)) (.title g))

/-! ### Lines on a fault -/

def errorMark : List Char := ['c', 'p', 'u', ':', ' ', 'e', 'r', 'r', 'o', 'r', ':']

def errorLines (report : String) : List (List Char) :=
  (report.toList.splitOn '\n').filter (errorMark.isPrefixOf ·)

/-- A text that brings no further such lines, however many lines it has. -/
def IsQuiet (text : List Char) : Prop := ∀ line ∈ (text.splitOn '\n').tail, ¬ errorMark <+: line

section

variable {c : Char} {cs t w : List Char} {ws : List (List Char)}

theorem splitOn_append (hcs : c ∉ cs) (t : List Char) :
    (cs ++ t).splitOn c = (t.splitOn c).modifyHead (cs ++ ·) := by
  induction cs with
  | nil => exact (congrFun List.modifyHead_id _).symm
  | cons d cs ih =>
    rw [List.mem_cons, not_or] at hcs
    rw [List.cons_append, List.splitOn_cons_eq_if_modifyHead,
      if_neg (by simpa using Ne.symm hcs.1), ih hcs.2, List.modifyHead_modifyHead]
    rfl

theorem infix_intercalate (sep : List Char) (hw : w ∈ ws) : w <:+: sep.intercalate ws := by
  induction ws with
  | nil => cases hw
  | cons v ws ih =>
    cases ws with
    | nil =>
      obtain rfl := List.mem_singleton.mp hw
      simp
    | cons v' ws =>
      rcases List.mem_cons.mp hw with rfl | hw
      · rw [List.intercalate_cons_cons, List.append_assoc]
        exact (List.prefix_append _ _).isInfix
      · rw [List.intercalate_cons_cons]
        exact (ih hw).trans (List.suffix_append _ _).isInfix

theorem infix_of_mem_splitOn (hw : w ∈ cs.splitOn c) : w <:+: cs := by
  have hinfix := infix_intercalate [c] hw
  rwa [List.intercalate_splitOn] at hinfix

end

set_option maxRecDepth 20000 in
/-- The help is made of full lines, and none of them tells of a fault. -/
theorem exists_helpChars : ∃ cs : List Char, helpText = String.ofList (cs ++ ['\n']) ∧
    (cs.splitOn '\n').filter (errorMark.isPrefixOf ·) = [] := by
  -- The characters are taken from the text as it is written: to decode its bytes takes too long.
  obtain ⟨all, hall, hend, hlines⟩ : ∃ all : List Char, helpText = String.ofList all ∧
      all.getLast? = some '\n' ∧ (all.splitOn '\n').filter (errorMark.isPrefixOf ·) = [] :=
    ⟨_, rfl, by decide +kernel, by decide +kernel⟩
  obtain ⟨cs, rfl⟩ := List.getLast?_eq_some_iff.mp hend
  rw [List.splitOn_append_cons_self, List.filter_append, List.append_eq_nil_iff] at hlines
  exact ⟨cs, hall, hlines.1⟩

theorem isQuiet_of_isOneLine {s : String} (h : IsOneLine s) : IsQuiet s.toList := by
  rw [IsQuiet, List.splitOn_eq_singleton h]
  simp

theorem length_errorLines {u : UsageError} (h : IsQuiet u.text.toList) :
    (errorLines (Exit.usage u).report).length = 1 := by
  obtain ⟨help, hhelp, hnone⟩ := exists_helpChars
  obtain ⟨first, rest, hsplit⟩ := List.exists_cons_of_ne_nil
    (List.splitOn_ne_nil '\n' u.text.toList)
  have hmark : "cpu: error: " = String.ofList (errorMark ++ [' ']) := rfl
  have hreport : (Exit.usage u).report.toList =
      help ++ '\n' :: ((errorMark ++ [' ']) ++ (u.text.toList ++ ['\n'])) := by
    rw [Exit.report, String.toList_append, hhelp, String.toList_ofList]
    simp [toString, hmark]
  have hlines : (Exit.usage u).report.toList.splitOn '\n' =
      help.splitOn '\n' ++ (errorMark ++ [' '] ++ first) :: (rest ++ [[]]) := by
    rw [hreport, List.splitOn_append_cons_self, splitOn_append (by decide),
      List.splitOn_append_cons_self, hsplit]
    rfl
  have hrest : (rest ++ [[]]).filter (errorMark.isPrefixOf ·) = [] := by
    rw [IsQuiet, hsplit, List.tail_cons] at h
    rw [List.filter_eq_nil_iff]
    intro line hline
    rw [List.isPrefixOf_iff_prefix]
    rcases List.mem_append.mp hline with hline | hline
    · exact h line hline
    · rw [List.mem_singleton.mp hline]
      decide
  rw [errorLines, hlines, List.filter_append, hnone, List.nil_append, List.filter_cons_of_pos,
    hrest]
  · rfl
  · simp

/-! ### Options that nobody knows -/

/-- No `e` behind a blank, as there is one in the mark of a fault. -/
def IsCalm (c d : Char) : Prop := c = ' ' → d ≠ 'e'

instance : DecidableRel IsCalm := fun c d => inferInstanceAs (Decidable (c = ' ' → d ≠ 'e'))

theorem isQuiet_of_isChain {cs : List Char} (h : cs.IsChain IsCalm) : IsQuiet cs := by
  intro line hline hmark
  have hinfix : errorMark <:+: cs :=
    hmark.isInfix.trans (infix_of_mem_splitOn (List.mem_of_mem_tail hline))
  have hcalm := h.infix hinfix
  simp [errorMark, IsCalm] at hcalm

/-- Unknown options start with a hyphen and hold no blank, so that one blank is in front of each. -/
theorem isChain_intercalate {ws : List (List Char)}
    (h : ∀ w ∈ ws, w.head? = some '-' ∧ ' ' ∉ w) :
    (' ' :: [' '].intercalate ws).IsChain IsCalm := by
  have hword {w : List Char} (hw : w ∈ ws) : (' ' :: w).IsChain IsCalm := by
    obtain ⟨hhead, hblank⟩ := h w hw
    obtain ⟨r, rfl⟩ := List.head?_eq_some_iff.mp hhead
    have hcalm : ('-' :: r).Pairwise IsCalm :=
      List.pairwise_of_forall_mem_list fun c hc _ _ hc' => absurd (hc' ▸ hc) hblank
    exact List.isChain_cons_cons.mpr ⟨by decide, hcalm.isChain⟩
  induction ws with
  | nil => simp
  | cons w ws ih =>
    have hw := hword List.mem_cons_self
    cases ws with
    | nil => simpa using hw
    | cons v ws =>
      rw [List.intercalate_cons_cons, List.append_assoc, List.singleton_append, ← List.cons_append,
        List.isChain_append]
      refine ⟨hw, ih (fun u hu => h u (List.mem_cons_of_mem w hu))
        (fun hu => hword (List.mem_cons_of_mem w hu)), fun c _ d hd => ?_⟩
      cases hd
      exact fun _ => by decide

theorem isQuiet_unrecognized {strays : List String}
    (h : ∀ s ∈ strays, s.toList.head? = some '-' ∧ ' ' ∉ s.toList) :
    IsQuiet (UsageError.unrecognized strays).text.toList := by
  obtain ⟨cs, hcs, hcalm, hend⟩ : ∃ cs : List Char, "unrecognized arguments: " = String.ofList cs ∧
      cs.IsChain IsCalm ∧ cs.getLast? = some ' ' := ⟨_, rfl, by decide +kernel, rfl⟩
  obtain ⟨label, rfl⟩ := List.getLast?_eq_some_iff.mp hend
  have hwords : (' ' :: [' '].intercalate (strays.map String.toList)).IsChain IsCalm :=
    isChain_intercalate (by simpa using h)
  have htext : (UsageError.unrecognized strays).text =
      String.ofList (label ++ [' ']) ++ " ".intercalate strays :=
    congrArg (· ++ " ".intercalate strays) hcs
  refine isQuiet_of_isChain ?_
  rw [htext, String.toList_append, String.toList_ofList, String.toList_intercalate,
    List.append_assoc, List.isChain_append]
  refine ⟨(List.isChain_append.mp hcalm).1, hwords, fun c _ d hd => ?_⟩
  cases hd
  exact fun _ => by decide

theorem of_roleOf_unknown {cs : List Char} (h : roleOf cs = .ok .unknown) :
    cs.head? = some '-' ∧ ' ' ∉ cs := by
  unfold roleOf unmatched Reading.role at h
  grind

theorem of_mem_unknown {argv : List String} {ws : List Word} (hws : wordsOf argv = .ok ws)
    {s : String} (hs : ⟨s, .unknown⟩ ∈ ws) : s.toList.head? = some '-' ∧ ' ' ∉ s.toList := by
  induction argv generalizing ws with
  | nil =>
    cases hws
    cases hs
  | cons t rest ih =>
    obtain ⟨-, rfl⟩ | ⟨-, role, words, hrole, hwords, rfl⟩ := wordsOf_cases hws
    · simp at hs
    · rcases List.mem_cons.mp hs with h | h
      · cases h
        exact of_roleOf_unknown hrole
      · exact ih hwords h

/-! ### Exits -/

open Deed

/-- The deed of a switch is come to, and everything before it could be done. -/
def Reaches (argv : List String) (f : Flag) : Prop :=
  ∃ ws before after b, wordsOf argv = .ok ws ∧ deeds ws = before ++ .turnOn f :: after ∧
    actAll {} before = .ok b

def Gives (argv : List String) (f : Flag) : Prop :=
  ∃ ws, wordsOf argv = .ok ws ∧ .turnOn f ∈ deeds ws

variable {argv : List String}

theorem isOneLine_doubt {words : List String} {d : Doubt} (h : firstDoubt? words = some d) :
    IsOneLine (UsageError.ambiguous d).text := by
  obtain ⟨s, -, hs⟩ := List.exists_of_findSome?_eq_some h
  have hd : d ∈ doubts := List.mem_of_find?_eq_some hs
  have hword : ∀ d ∈ doubts, '\n' ∉ d.word.toList ∧ ∀ s ∈ d.spellings, '\n' ∉ s.toList := by
    decide
  obtain ⟨hword, hspellings⟩ := hword d hd
  exact (((IsOneLine.of_chars rfl (by decide)).append hword).append
    (.of_chars rfl (by decide))).append (.intercalate (.of_chars rfl (by decide)) hspellings)

/-- A fault that is told on one line or, where a word of the command line runs over several, on
lines that do not look like it. -/
structure IsTold (argv : List String) (u : UsageError) : Prop where
  quiet : IsQuiet u.text.toList
  oneLine : (∀ s ∈ argv, IsOneLine s) → IsOneLine u.text

theorem isTold_of_isOneLine {u : UsageError} (h : IsOneLine u.text) : IsTold argv u :=
  ⟨isQuiet_of_isOneLine h, fun _ => h⟩

theorem isTold_unrecognized {ws : List Word} {strays : List String} (hws : wordsOf argv = .ok ws)
    (hstrays : ∀ s ∈ strays, ⟨s, .unknown⟩ ∈ ws) : IsTold argv (.unrecognized strays) where
  quiet := isQuiet_unrecognized fun s hs => of_mem_unknown hws (hstrays s hs)
  oneLine hlines := by
    have hargv : ∀ s ∈ strays, s ∈ argv := fun s hs => by
      rw [← wordsOf_texts hws]
      exact List.mem_map_of_mem (hstrays s hs)
    exact (IsOneLine.of_chars rfl (by decide)).append
      (.intercalate (.of_chars rfl (by decide)) fun s hs => hlines s (hargv s hs))

theorem exit_of_actAll {ws : List Word} {e : Exit} (hws : wordsOf argv = .ok ws)
    (h : actAll {} (deeds ws) = .error e) :
    (e = .help ∧ Reaches argv .help) ∨ (e = .version ∧ Reaches argv .version) ∨
      ∃ u : UsageError, e = .usage u ∧ IsTold argv u := by
  obtain ⟨before, d, after, b, hsplit, hbefore, hact⟩ := actAll_eq_error_iff.mp h
  have hreaches {f : Flag} (hf : d = .turnOn f) : Reaches argv f :=
    ⟨ws, before, after, b, hws, hf ▸ hsplit, hbefore⟩
  have hmem : d ∈ deeds ws := by simp [hsplit]
  obtain ⟨hd, he⟩ | ⟨hd, he⟩ | ⟨u, he, hu⟩ := exit_of_act hmem hact
  · exact .inl ⟨he, hreaches hd⟩
  · exact .inr (.inl ⟨he, hreaches hd⟩)
  · exact .inr (.inr ⟨u, he, isTold_of_isOneLine (UsageError.isOneLine_text hu)⟩)

/-- What ends a command line early: a switch that was reached, or a fault. -/
theorem exit_cases {e : Exit} (h : parse argv = .error e) :
    (e = .help ∧ Reaches argv .help) ∨ (e = .version ∧ Reaches argv .version) ∨
      ∃ u : UsageError, e = .usage u ∧ IsTold argv u := by
  have hdoubt := wordsOf_doubt argv
  split at hdoubt
  case h_1 d hfirst =>
    rw [parse, hdoubt] at h
    cases h
    exact .inr (.inr ⟨_, rfl, isTold_of_isOneLine (isOneLine_doubt hfirst)⟩)
  case h_2 hnone =>
    obtain ⟨ws, hws⟩ := hdoubt
    obtain ⟨rest, strays, hstrays, hparse⟩ := parse_of_words hws
    rw [hparse] at h
    cases hdone : actAll {} (deeds ws) with
    | error e' =>
      rw [hdone] at h
      cases h
      exact exit_of_actAll hws hdone
    | ok a =>
      rw [hdone] at h
      simp only [Except.bind] at h
      split at h
      case isTrue => cases h
      case isFalse =>
        cases h
        exact .inr (.inr ⟨_, rfl, isTold_unrecognized hws hstrays⟩)

/-- A switch that leaves does so as soon as it is reached, whatever is wrong behind it. -/
theorem parse_of_reaches {f : Flag} {e : Exit} (h : Reaches argv f)
    (hleaves : ∀ a : Arguments, a.switch f = .error e) : parse argv = .error e := by
  obtain ⟨ws, before, after, b, hws, hsplit, hbefore⟩ := h
  obtain ⟨rest, strays, -, hparse⟩ := parse_of_words hws
  have hdone : actAll {} (deeds ws) = .error e :=
    actAll_eq_error_iff.mpr ⟨before, _, after, b, hsplit, hbefore, hleaves b⟩
  rw [hparse, hdone]
  rfl

theorem parse_of_gives (hdebug : Gives argv .debug) (hdump : Gives argv .dump) :
    ∃ e, parse argv = .error e := by
  obtain ⟨ws, hws, hdebug⟩ := hdebug
  obtain ⟨ws', hws', hdump⟩ := hdump
  rw [hws] at hws'
  cases hws'
  exact parse_exclusive hws hdebug hdump

/-- Switches that are spelt in full are given, unless the command line cannot be read. -/
theorem gives_of_flags {options rest : List String} (hoptions : Flags options) {f : Flag}
    {s : String} (hs : s ∈ f.spellings) (hf : f.isSwitch = true) (hmem : s ∈ options) :
    Gives (options ++ rest) f ∨ ∃ e, parse (options ++ rest) = .error e := by
  cases hws : wordsOf (options ++ rest) with
  | error d => exact .inr ⟨_, by rw [parse, hws]⟩
  | ok ws => exact .inl ⟨ws, hws, turnOn_mem_deeds hoptions hs hf hmem hws⟩

theorem options_of_root {a : Arguments} (hroot : Flag.root ∈ a.emptied) (env : Environment) :
    a.settings.options env = .error .unusable := by
  have hcommand : a.settings.get "command" = .words a.command :=
    get_settings_of_forall_ne (by intro f; cases f <;> decide)
  have hget : a.settings.get "root" = .words [] := by
    rw [get_settings "root" .root rfl rfl, Arguments.left, if_pos hroot]
  rw [Settings.options, hcommand]
  simp [Settings.joined, Settings.pathsUsable, hget, Settings.isText]

/-- The check of the options never finds debugging and dumping together in what was read from a
command line. -/
theorem exclusive_notMem {a : Arguments} (hparse : parse argv = .ok a) {env : Environment}
    {ps : List Options.Problem}
    (h : a.settings.options env = .error (.configuration (.options ps))) :
    ⟨"", .exclusive⟩ ∉ ps := by
  by_cases hroot : Flag.root ∈ a.emptied
  · rw [options_of_root hroot] at h
    cases h
  · rw [options_eq hroot] at h
    obtain ⟨-, o, ho⟩ | ⟨-, ps', hps, hnames⟩ :=
      check_parsed (Arguments.isParsed_of_parse hparse) hroot (String.intercalate " " a.command) env
    · rw [ho] at h
      cases h
    · rw [hps] at h
      cases h
      intro hmem
      have hname : "" ∈ Options.names := violated_sublist.subset
        (hnames ▸ List.mem_map_of_mem (f := Options.Problem.option) hmem)
      exact absurd hname (by decide)

/-- How every command line ends. What is read from it does not ask for both debugging and dumping,
so the check of the options need not find that. Otherwise it is left: with the help or the version
on standard output, exactly if one of them is asked for with nothing wrong before, or with the help
and one line on the fault on standard error. Debugging and dumping together, among any other options
before the host, are always such an end. -/
theorem parse_exits (argv : List String) :
    (∀ a, parse argv = .ok a → ¬ (a.debug = true ∧ a.dump = true) ∧
      ∀ env ps, a.settings.options env = .error (.configuration (.options ps)) →
        ⟨"", .exclusive⟩ ∉ ps) ∧
    (∀ e, parse argv = .error e →
      (e.status = 0 ∧ e.report = "" ∧
        (e.output = helpText ∧ Reaches argv .help ∨
          e.output = versionText ∧ Reaches argv .version)) ∨
      (e.status = 1 ∧ e.output = "" ∧ (errorLines e.report).length = 1 ∧
        ∃ text, e.report = helpText ++ s!"cpu: error: {text}\n" ∧
          ((∀ s ∈ argv, IsOneLine s) → IsOneLine text))) ∧
    (Reaches argv .help → parse argv = .error .help) ∧
    (Reaches argv .version → parse argv = .error .version) ∧
    (Gives argv .debug → Gives argv .dump → ∃ e, parse argv = .error e) ∧
    ∀ options rest, argv = options ++ rest → Flags options → "-d" ∈ options →
      "-dump" ∈ options → ∃ e, parse argv = .error e := by
  refine ⟨fun a ha => ⟨?_, fun env ps => exclusive_notMem ha⟩, fun e he => ?_,
    fun h => parse_of_reaches h fun _ => rfl, fun h => parse_of_reaches h fun _ => rfl,
    parse_of_gives, ?_⟩
  · simpa using (Arguments.isParsed_of_parse ha).exclusive
  · obtain ⟨rfl, h⟩ | ⟨rfl, h⟩ | ⟨u, rfl, htold⟩ := exit_cases he
    · exact .inl ⟨rfl, rfl, .inl ⟨rfl, h⟩⟩
    · exact .inl ⟨rfl, rfl, .inr ⟨rfl, h⟩⟩
    · exact .inr ⟨rfl, rfl, length_errorLines htold.quiet, u.text, rfl, htold.oneLine⟩
  · rintro options rest rfl hoptions hdebug hdump
    obtain hdebug | hrefused := gives_of_flags (f := .debug) hoptions (by decide) rfl hdebug
    · obtain hdump | hrefused := gives_of_flags (f := .dump) hoptions (by decide) rfl hdump
      · exact parse_of_gives hdebug hdump
      · exact hrefused
    · exact hrefused

/-- The two switches beside a value and beside an unknown option, the help before they come
together, the version before a value that is no number, and a size that is refused. -/
theorem parse_exits_mixed :
    (Flags ["-bin", "x", "-dump", "-d"] ∧
      ∃ e, parse ["-bin", "x", "-dump", "-d", "srv"] = .error e ∧ e.status = 1 ∧
        (errorLines e.report).length = 1) ∧
    (Gives ["-dump", "-bogus", "-d", "srv"] .debug ∧ Gives ["-dump", "-bogus", "-d", "srv"] .dump ∧
      ∃ e, parse ["-dump", "-bogus", "-d", "srv"] = .error e) ∧
    (Reaches ["-d", "-h", "-dump", "srv"] .help ∧
      parse ["-d", "-h", "-dump", "srv"] = .error .help) ∧
    (Reaches ["-version", "-msize", "x"] .version ∧
      parse ["-version", "-msize", "x"] = .error .version) ∧
    ∃ a ps, parse ["-d", "-msize", "1", "srv"] = .ok a ∧
      a.settings.options [] = .error (.configuration (.options ps)) ∧ ⟨"", .exclusive⟩ ∉ ps := by
  have hflags : Flags ["-bin", "x", "-dump", "-d"] :=
    .value (f := .bin) rfl (by decide) (by decide)
      (.switch (f := .dump) rfl (by decide) (.switch (f := .debug) rfl (by decide) .nil))
  have hdebug : Gives ["-dump", "-bogus", "-d", "srv"] .debug := ⟨_, rfl, by decide +kernel⟩
  have hdump : Gives ["-dump", "-bogus", "-d", "srv"] .dump := ⟨_, rfl, by decide +kernel⟩
  have hhelp : Reaches ["-d", "-h", "-dump", "srv"] .help :=
    ⟨_, [.turnOn .debug], _, _, rfl, rfl, rfl⟩
  have hversion : Reaches ["-version", "-msize", "x"] .version := ⟨_, [], _, _, rfl, rfl, rfl⟩
  refine ⟨⟨hflags, ?_⟩, ⟨hdebug, hdump, (parse_exits _).2.2.2.2.1 hdebug hdump⟩,
    ⟨hhelp, (parse_exits _).2.2.1 hhelp⟩, ⟨hversion, (parse_exits _).2.2.2.1 hversion⟩, ?_⟩
  · obtain ⟨-, hleft, -, -, -, hboth⟩ := parse_exits ["-bin", "x", "-dump", "-d", "srv"]
    obtain ⟨e, he⟩ := hboth _ ["srv"] rfl hflags (by decide) (by decide)
    have hrefused : parse ["-bin", "x", "-dump", "-d", "srv"] =
        .error (.usage (.conflict .debug .dump)) := rfl
    obtain ⟨hstatus, -⟩ | ⟨hstatus, -, hlines, -⟩ := hleft e he
    · rw [hrefused] at he
      cases he
      exact absurd hstatus (by decide)
    · exact ⟨e, he, hstatus, hlines⟩
  · have hparse : parse ["-d", "-msize", "1", "srv"] =
        .ok { debug := true, msize := 1, host := some "srv" } := rfl
    have hroot : Flag.root ∉ ([] : List Flag) := List.not_mem_nil
    obtain ⟨hnone, -⟩ | ⟨-, ps, hps, -⟩ :=
      check_parsed (Arguments.isParsed_of_parse hparse) hroot "" []
    · exact absurd hnone (List.ne_nil_of_mem (a := "msize") (by decide))
    · have hoptions : ({ debug := true, msize := 1, host := some "srv" } :
          Arguments).settings.options [] = .error (.configuration (.options ps)) := by
        rw [options_eq hroot]
        exact congrArg (Except.mapError _) hps
      exact ⟨_, ps, hparse, hoptions, ((parse_exits _).1 _ hparse).2 _ _ hoptions⟩

end Tether.CommandLine
