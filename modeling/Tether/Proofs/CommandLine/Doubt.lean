import Tether.Proofs.CommandLine.Host
import Mathlib.Data.List.Infix
import Mathlib.Data.List.Nodup

/-! # Doubtful words

A word leaves a doubt if two options could be meant by it. There are six such words, and
before a separator each of them is refused, in the remote command too. Nothing else in a
remote command is.
-/

namespace Tether.CommandLine

/-- The words that two options could be meant by, each with the spellings of the two. -/
def doubts : List Doubt :=
  [⟨"-m", ["-mountopts", "-msize"]⟩, ⟨"-du", ["-d", "-dump"]⟩, ⟨"-dum", ["-d", "-dump"]⟩,
    ⟨"-db", ["-d", "-dbg9p"]⟩, ⟨"-dbg", ["-d", "-dbg9p"]⟩, ⟨"-dbg9", ["-d", "-dbg9p"]⟩]

def doubt? (s : String) : Option Doubt := doubts.find? (·.word = s)

/-- The first doubt that words leave. Those after a separator leave none. -/
def firstDoubt? (words : List String) : Option Doubt :=
  (words.takeWhile (· ≠ "--")).findSome? doubt?

/-! ### One word -/

def beginnings : List (List Char) := table.flatMap fun e => e.1.inits

theorem mem_beginnings {cs : List Char} : cs ∈ beginnings ↔ ∃ e ∈ table, cs <+: e.1 := by
  simp [beginnings, List.mem_inits]

theorem nodup_spellings : (table.map (·.1)).Nodup := by decide

theorem countP_spelling_le (p : List Char × Flag → Bool) (cs : List Char)
    (hp : ∀ e ∈ table, p e = true → e.1 = cs) : table.countP p ≤ 1 := by
  calc table.countP p ≤ table.countP fun e => e.1 == cs :=
        List.countP_mono_left fun e he h => by simp [hp e he h]
    _ = (table.map (·.1)).count cs := by simp [List.count, List.countP_map, Function.comp_def]
    _ ≤ 1 := List.nodup_iff_count_le_one.mp nodup_spellings cs

theorem length_shortReadings_le {cs : List Char} (h : cs ∉ beginnings) :
    (shortReadings cs).length ≤ 1 := by
  rw [shortReadings, List.length_filterMap_eq_countP]
  refine countP_spelling_le _ (cs.take 2) fun e he hread => ?_
  have hprefix : ¬ cs <+: e.1 := fun hcs => h (mem_beginnings.mpr ⟨e, he, hcs⟩)
  by_contra hne
  simp [hne, hprefix] at hread

/-- With two hyphens in front only one spelling can be meant. -/
theorem length_longReadings_le (cs : List Char) : (longReadings ('-' :: '-' :: cs)).length ≤ 1 := by
  have hstart : ['-', '-'] <+: (splitValue ('-' :: '-' :: cs)).1 := by
    unfold splitValue Text.splitFirst?
    split
    · rename_i hsplit
      split at hsplit
      · cases hsplit
      · cases hsplit
        simp
    · simp
  rw [longReadings, List.length_filterMap_eq_countP]
  refine countP_spelling_le _ "--help".toList fun e he hread => ?_
  have hlong : ∀ e ∈ table, ['-', '-'] <+: e.1 → e.1 = "--help".toList := by decide
  refine hlong e he (hstart.trans ?_)
  by_contra hne
  simp [hne] at hread

theorem length_readings_le {cs : List Char} (h : cs ∉ beginnings) : (readings cs).length ≤ 1 := by
  unfold readings
  split
  · exact length_longReadings_le _
  · exact length_shortReadings_le h

def doubtOf (s : String) : Option Doubt :=
  match roleOf s.toList with
  | .error spellings => some ⟨s, spellings.map String.ofList⟩
  | .ok _ => none

theorem roleOf_of_length_le {cs : List Char} (h : (readings cs).length ≤ 1) :
    ∃ role, roleOf cs = .ok role := by
  unfold roleOf
  split
  · exact ⟨_, rfl⟩
  · cases exactReading? cs with
    | some r => exact ⟨_, rfl⟩
    | none =>
      rcases hreadings : readings cs with _ | ⟨r, _ | ⟨r', rs⟩⟩
      · exact ⟨_, rfl⟩
      · exact ⟨_, rfl⟩
      · simp [hreadings] at h

theorem doubtOf_eq_none {s : String} (h : s.toList ∉ beginnings) : doubtOf s = none := by
  obtain ⟨role, hrole⟩ := roleOf_of_length_le (length_readings_le h)
  simp [doubtOf, hrole]

theorem doubtOf_eq (s : String) : doubtOf s = doubt? s := by
  by_cases h : s.toList ∈ beginnings
  · have hall : ∀ cs ∈ beginnings, doubtOf (String.ofList cs) = doubt? (String.ofList cs) := by
      decide +kernel
    simpa using hall _ h
  · have hall : ∀ d ∈ doubts, d.word.toList ∈ beginnings := by decide +kernel
    rw [doubtOf_eq_none h, eq_comm, doubt?, List.find?_eq_none]
    rintro d hd hword
    simp only [decide_eq_true_eq] at hword
    exact h (hword ▸ hall d hd)

/-! ### All words -/

theorem firstDoubt?_cons {s : String} (hs : s ≠ "--") (rest : List String) :
    firstDoubt? (s :: rest) = (doubt? s).or (firstDoubt? rest) := by
  rw [firstDoubt?, List.takeWhile_cons, if_pos (by simpa using hs), List.findSome?_cons]
  cases doubt? s <;> rfl

theorem wordsOf_doubt (words : List String) :
    match firstDoubt? words with
    | some d => wordsOf words = .error d
    | none => ∃ ws, wordsOf words = .ok ws := by
  induction words with
  | nil => exact ⟨[], rfl⟩
  | cons s rest ih =>
    by_cases hs : s = "--"
    · subst hs
      exact ⟨_, rfl⟩
    · rw [firstDoubt?_cons hs, ← doubtOf_eq]
      cases hrole : roleOf s.toList with
      | error spellings => simp [doubtOf, hrole, wordsOf, hs]
      | ok role =>
        simp only [doubtOf, hrole, Option.none_or, wordsOf_cons hs hrole]
        cases hrest : firstDoubt? rest with
        | some d =>
          rw [hrest] at ih
          rw [ih]
          rfl
        | none =>
          rw [hrest] at ih
          obtain ⟨ws, hws⟩ := ih
          exact ⟨_, by rw [hws]; rfl⟩

/-- A remote command is refused exactly if a word of it, before any separator, leaves a doubt;
otherwise the command line is read as far as the host, and the words are the command. -/
theorem parse_remote {argv : List String} (hargv : Flags argv) {host : String}
    (hhost : host.toList.head? ≠ some '-') (words : List String) :
    parse (argv ++ [host] ++ words) =
      match firstDoubt? words with
      | some d => .error (.usage (.ambiguous d))
      | none => (parse (argv ++ [host])).map fun a => { a with command := remoteWords words } := by
  obtain ⟨read, hread⟩ := parse_host hargv hhost
  have halone : parse (argv ++ [host]) =
      read.map fun a => { a with host := some host, command := [] } := by
    simpa [wordsOf, remoteWords] using hread []
  have hdoubt := wordsOf_doubt words
  rw [hread, halone]
  cases hfirst : firstDoubt? words with
  | some d =>
    rw [hfirst] at hdoubt
    rw [hdoubt]
  | none =>
    rw [hfirst] at hdoubt
    obtain ⟨ws, hws⟩ := hdoubt
    rw [hws]
    cases read <;> rfl

/-- A command with a count for one of its words, and the same behind a separator. -/
theorem parse_remote_count :
    Flags ["-d"] ∧ "srv".toList.head? ≠ some '-' ∧
      parse (["-d"] ++ ["srv"] ++ ["grep", "-m", "1", "x"]) =
        .error (.usage (.ambiguous ⟨"-m", ["-mountopts", "-msize"]⟩)) ∧
      parse (["-d"] ++ ["srv"] ++ ["grep", "-e", "--", "-m"]) =
        .ok { debug := true, host := some "srv", command := ["grep", "-e", "--", "-m"] } := by
  have hflags : Flags ["-d"] := .switch (f := .debug) rfl (by decide) .nil
  have hhost : "srv".toList.head? ≠ some '-' := by decide
  refine ⟨hflags, hhost, ?_, ?_⟩
  · rw [parse_remote hflags hhost]
    rfl
  · rw [parse_remote hflags hhost]
    rfl

end Tether.CommandLine
