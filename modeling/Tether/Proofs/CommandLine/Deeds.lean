import Tether.Proofs.CommandLine.Host
import Tether.Proofs.CommandLine.Parsed

/-! # Deeds

Acting on the words of a command line comes down to a list of deeds, done one after the other until
one of them ends everything: switches that are turned on, options that are given a value, and
faults. The order of the options matters only as the order of their deeds.
-/

namespace Tether.CommandLine

inductive Deed
  | turnOn (f : Flag)
  | give (f : Flag) (v : String)
  | refuse (e : UsageError)
  deriving DecidableEq, Repr

namespace Deed

def act (a : Arguments) : Deed → Except Exit Arguments
  | .turnOn f => a.switch f
  | .give f v => a.set f v
  | .refuse e => .error (.usage e)

def actAll (a : Arguments) (ds : List Deed) : Except Exit Arguments := ds.foldlM act a

end Deed

open Deed

/-- The deeds that words ask for. The first plain word that is no value is the host, and what
follows it asks for nothing. -/
def deeds : List Word → List Deed
  | ⟨_, .unknown⟩ :: r => deeds r
  | ⟨_, .option f spelling (some v)⟩ :: r =>
    if f.isSwitch then
      match cluster f spelling v with
      | .error e => .refuse e :: deeds r
      | .ok fs => fs.map .turnOn ++ deeds r
    else .give f (String.ofList v) :: deeds r
  | ⟨_, .option f _ none⟩ :: r =>
    if f.isSwitch then .turnOn f :: deeds r
    else match r with
      | ⟨v, .plain⟩ :: r => .give f v :: deeds r
      | r => .refuse (.missingValue f) :: deeds r
  | _ => []

variable {a b : Arguments} {d : Deed} {ds : List Deed} {f : Flag} {e : Exit}

theorem actAll_cons (a : Arguments) (d : Deed) (ds : List Deed) :
    actAll a (d :: ds) = (d.act a).bind (actAll · ds) := rfl

theorem actAll_append (a : Arguments) (ds ds' : List Deed) :
    actAll a (ds ++ ds') = (actAll a ds).bind (actAll · ds') := by
  induction ds generalizing a with
  | nil => rfl
  | cons d ds ih =>
    rw [List.cons_append, actAll_cons, actAll_cons]
    cases d.act a with
    | error e => rfl
    | ok b => exact ih b

theorem actAll_turnOn (a : Arguments) (fs : List Flag) :
    actAll a (fs.map .turnOn) = fs.foldlM Arguments.switch a := by
  rw [actAll, List.foldlM_map]
  rfl

/-! ### What words ask for -/

theorem deeds_switch (hf : f.isSwitch = true) (s : String) (spelling : List Char)
    (rest : List Word) :
    deeds (⟨s, .option f spelling none⟩ :: rest) = .turnOn f :: deeds rest := by
  rw [deeds.eq_def]
  simp only [if_pos hf]

theorem deeds_value (hf : f.isSwitch = false) (s v : String) (spelling : List Char)
    (rest : List Word) : deeds (⟨s, .option f spelling none⟩ :: ⟨v, .plain⟩ :: rest) =
      .give f v :: deeds rest := by
  rw [deeds.eq_def]
  simp only [if_neg (Bool.eq_false_iff.mp hf)]

/-- What words ask for, by the kind of the first one. -/
inductive Asks : List Word → List Deed → Prop
  | unknown {text : String} {r : List Word} {ds : List Deed} (next : Asks r ds) :
    Asks (⟨text, .unknown⟩ :: r) ds
  | strayLetters {text : String} {f : Flag} {spelling v : List Char} {e : UsageError}
    {r : List Word} {ds : List Deed} (switch : f.isSwitch = true)
    (letters : cluster f spelling v = .error e) (next : Asks r ds) :
    Asks (⟨text, .option f spelling (some v)⟩ :: r) (.refuse e :: ds)
  | letters {text : String} {f : Flag} {spelling v : List Char} {fs : List Flag}
    {r : List Word} {ds : List Deed} (switch : f.isSwitch = true)
    (letters : cluster f spelling v = .ok fs) (next : Asks r ds) :
    Asks (⟨text, .option f spelling (some v)⟩ :: r) (fs.map .turnOn ++ ds)
  | attached {text : String} {f : Flag} {spelling v : List Char} {r : List Word} {ds : List Deed}
    (switch : f.isSwitch = false) (next : Asks r ds) :
    Asks (⟨text, .option f spelling (some v)⟩ :: r) (.give f (String.ofList v) :: ds)
  | switch {text : String} {f : Flag} {spelling : List Char} {r : List Word} {ds : List Deed}
    (switch : f.isSwitch = true) (next : Asks r ds) :
    Asks (⟨text, .option f spelling none⟩ :: r) (.turnOn f :: ds)
  | value {text v : String} {f : Flag} {spelling : List Char} {r : List Word} {ds : List Deed}
    (switch : f.isSwitch = false) (next : Asks r ds) :
    Asks (⟨text, .option f spelling none⟩ :: ⟨v, .plain⟩ :: r) (.give f v :: ds)
  | missing {text : String} {f : Flag} {spelling : List Char} {r : List Word} {ds : List Deed}
    (switch : f.isSwitch = false) (value : ∀ v q, r ≠ ⟨v, .plain⟩ :: q) (next : Asks r ds) :
    Asks (⟨text, .option f spelling none⟩ :: r) (.refuse (.missingValue f) :: ds)
  | others {ws : List Word} (unknown : ∀ text r, ws ≠ ⟨text, .unknown⟩ :: r)
    (option : ∀ text f spelling v r, ws ≠ ⟨text, .option f spelling v⟩ :: r) : Asks ws []

theorem asks_attached (f : Flag) (text : String) (spelling v : List Char) {r : List Word}
    (h : Asks r (deeds r)) : Asks (⟨text, .option f spelling (some v)⟩ :: r)
      (deeds (⟨text, .option f spelling (some v)⟩ :: r)) := by
  rw [deeds.eq_def]
  dsimp only
  cases hf : f.isSwitch with
  | false => exact .attached hf h
  | true =>
    rw [if_pos rfl]
    cases hletters : cluster f spelling v with
    | error e => exact .strayLetters hf hletters h
    | ok fs => exact .letters hf hletters h

theorem asks_missing (hf : f.isSwitch = false) (text : String) (spelling : List Char)
    {r : List Word} (hr : ∀ v q, r ≠ ⟨v, .plain⟩ :: q) (h : Asks r (deeds r)) :
    Asks (⟨text, .option f spelling none⟩ :: r) (deeds (⟨text, .option f spelling none⟩ :: r)) := by
  have hdeeds : deeds (⟨text, .option f spelling none⟩ :: r) =
      .refuse (.missingValue f) :: deeds r := by
    rw [deeds.eq_def]
    simp only [if_neg (Bool.eq_false_iff.mp hf)]
  rw [hdeeds]
  exact .missing hf hr h

theorem asks_deeds : ∀ ws, Asks ws (deeds ws)
  | [] => .others (by simp) (by simp)
  | ⟨text, .unknown⟩ :: r => .unknown (asks_deeds r)
  | ⟨text, .plain⟩ :: r => .others (by simp) (by simp)
  | ⟨text, .separator⟩ :: r => .others (by simp) (by simp)
  | ⟨text, .option f spelling (some v)⟩ :: r => asks_attached f text spelling v (asks_deeds r)
  | ⟨text, .option f spelling none⟩ :: r => by
    cases hf : f.isSwitch with
    | true =>
      rw [deeds_switch hf]
      exact .switch hf (asks_deeds r)
    | false =>
      match r with
      | ⟨v, .plain⟩ :: q =>
        rw [deeds_value hf]
        exact .value hf (asks_deeds q)
      | [] => exact asks_missing hf text spelling (by simp) (asks_deeds [])
      | ⟨s, .unknown⟩ :: q => exact asks_missing hf text spelling (by simp) (asks_deeds _)
      | ⟨s, .separator⟩ :: q => exact asks_missing hf text spelling (by simp) (asks_deeds _)
      | ⟨s, .option g t w⟩ :: q => exact asks_missing hf text spelling (by simp) (asks_deeds _)
termination_by ws => ws.length

/-- Acting on words is doing their deeds; then the host is read, and unknown options are put
aside. -/
theorem consume_eq (strays : List String) (ws : List Word) :
    ∃ (rest : List Word) (strays' : List String),
      (∀ s ∈ strays', s ∈ strays ∨ ⟨s, .unknown⟩ ∈ ws) ∧
      ∀ a : Arguments, a.consume strays ws =
        (actAll a (deeds ws)).map fun b => (b.positionals rest, strays') := by
  have h := asks_deeds ws
  generalize deeds ws = ds at h ⊢
  -- What is left for the host, and what is put aside, does not depend on the values read so far.
  induction h generalizing strays with
  | @unknown text r ds h ih =>
    obtain ⟨rest, strays', hstrays, hrest⟩ := ih (strays ++ [text])
    refine ⟨rest, strays', fun s hs => ?_, fun a => ?_⟩
    · rcases hstrays s hs with h | h
      · rcases List.mem_append.mp h with h | h
        · exact .inl h
        · exact .inr (List.mem_singleton.mp h ▸ List.mem_cons_self)
      · exact .inr (List.mem_cons_of_mem _ h)
    · rw [Arguments.consume, hrest]
  | strayLetters hf hletters h ih =>
    obtain ⟨rest, strays', hstrays, hrest⟩ := ih strays
    refine ⟨rest, strays', fun s hs => (hstrays s hs).imp id (List.mem_cons_of_mem _), fun a => ?_⟩
    simp only [Arguments.consume, if_pos hf, hletters]
    rfl
  | @letters text f spelling v fs r ds hf hletters h ih =>
    obtain ⟨rest, strays', hstrays, hrest⟩ := ih strays
    refine ⟨rest, strays', fun s hs => (hstrays s hs).imp id (List.mem_cons_of_mem _), fun a => ?_⟩
    simp only [Arguments.consume, if_pos hf, hletters, actAll_append, actAll_turnOn, hrest]
    cases fs.foldlM Arguments.switch a <;> rfl
  | @attached text f spelling v r ds hf h ih =>
    obtain ⟨rest, strays', hstrays, hrest⟩ := ih strays
    refine ⟨rest, strays', fun s hs => (hstrays s hs).imp id (List.mem_cons_of_mem _), fun a => ?_⟩
    simp only [Arguments.consume, if_neg (Bool.eq_false_iff.mp hf), actAll_cons, Deed.act, hrest]
    cases a.set f (String.ofList v) <;> rfl
  | @switch text f spelling r ds hf h ih =>
    obtain ⟨rest, strays', hstrays, hrest⟩ := ih strays
    refine ⟨rest, strays', fun s hs => (hstrays s hs).imp id (List.mem_cons_of_mem _), fun a => ?_⟩
    rw [consume_switch hf, actAll_cons, Deed.act]
    cases a.switch f with
    | error e => rfl
    | ok b => exact hrest b
  | @value text v f spelling r ds hf h ih =>
    obtain ⟨rest, strays', hstrays, hrest⟩ := ih strays
    have hlater {w : Word} (hw : w ∈ r) : w ∈ ⟨text, .option f spelling none⟩ ::
        (⟨v, .plain⟩ : Word) :: r := by simp [hw]
    refine ⟨rest, strays', fun s hs => (hstrays s hs).imp id hlater, fun a => ?_⟩
    simp only [Arguments.consume, if_neg (Bool.eq_false_iff.mp hf), actAll_cons, Deed.act, hrest]
    cases a.set f v <;> rfl
  | missing hf hvalue h ih =>
    refine ⟨[], strays, fun s hs => .inl hs, fun a => ?_⟩
    rw [Arguments.consume.eq_def]
    simp only [if_neg (Bool.eq_false_iff.mp hf)]
    rfl
  | @others ws hunknown hoption =>
    refine ⟨ws, strays, fun s hs => .inl hs, fun a => ?_⟩
    rw [Arguments.consume.eq_def]
    split
    case h_1 => rfl
    case h_2 text r => exact absurd rfl (hunknown text r)
    case h_3 text f spelling v r => exact absurd rfl (hoption text f spelling (some v) r)
    case h_4 text f spelling r => exact absurd rfl (hoption text f spelling none r)
    case h_5 => rfl

/-- The first deed that cannot be done ends everything. -/
theorem actAll_eq_error_iff : actAll a ds = .error e ↔
    ∃ before d after b, ds = before ++ d :: after ∧ actAll a before = .ok b ∧
      d.act b = .error e := by
  constructor
  · intro h
    induction ds generalizing a with
    | nil => cases h
    | cons d ds ih =>
      rw [actAll_cons] at h
      cases hd : d.act a with
      | error e' =>
        rw [hd] at h
        cases h
        exact ⟨[], d, ds, a, rfl, rfl, hd⟩
      | ok c =>
        rw [hd] at h
        obtain ⟨before, d', after, b, rfl, hbefore, hact⟩ := ih h
        refine ⟨d :: before, d', after, b, rfl, ?_, hact⟩
        rw [actAll_cons, hd]
        exact hbefore
  · rintro ⟨before, d, after, b, rfl, hbefore, hact⟩
    rw [actAll_append, hbefore]
    show actAll b (d :: after) = .error e
    rw [actAll_cons, hact]
    rfl

theorem turnOn_mem_deeds {options rest : List String} (h : Flags options) {s : String}
    (hs : s ∈ f.spellings) (hf : f.isSwitch = true) (hmem : s ∈ options) {ws : List Word}
    (hws : wordsOf (options ++ rest) = .ok ws) : .turnOn f ∈ deeds ws := by
  obtain ⟨hhead, -, -, hflag⟩ := flag?_spelling f s hs
  induction h generalizing ws with
  | nil => cases hmem
  | @switch g t options hg ht h ih =>
    obtain ⟨-, -, hsep, hflag'⟩ := flag?_spelling g t ht
    obtain ⟨words, hwords, rfl⟩ := exists_of_wordsOf hsep (roleOf_spelling ht) hws
    rw [deeds_switch hg]
    rcases List.mem_cons.mp hmem with rfl | hmem
    · obtain rfl : f = g := Option.some_inj.mp (hflag.symm.trans hflag')
      exact List.mem_cons_self
    · exact List.mem_cons_of_mem _ (ih hmem hwords)
  | @value g t v options hg ht hv h ih =>
    obtain ⟨-, -, hsep, hflag'⟩ := flag?_spelling g t ht
    obtain ⟨words, hwords, rfl⟩ := exists_of_wordsOf hsep (roleOf_spelling ht) hws
    obtain ⟨words, hrest, rfl⟩ :=
      exists_of_wordsOf (ne_separator_of_head? hv) (roleOf_plain hv) hwords
    rw [deeds_value hg]
    have hne : s ≠ t := by
      rintro rfl
      obtain rfl : f = g := Option.some_inj.mp (hflag.symm.trans hflag')
      exact absurd hf (Bool.eq_false_iff.mp hg)
    have hnv : s ≠ v := by
      rintro rfl
      exact hv hhead
    have hlater : s ∈ options := by simpa [hne, hnv] using hmem
    exact List.mem_cons_of_mem _ (ih hlater hrest)

/-! ### How a deed ends everything -/

def UsageError.IsOfFlag : UsageError → Prop
  | .ambiguous _ | .unrecognized _ => False
  | _ => True

theorem cluster_isOfFlag {spelling v : List Char} {u : UsageError}
    (h : cluster f spelling v = .error u) : u.IsOfFlag := by
  fun_induction cluster f spelling v with
  | case1 | case2 | case3 =>
    cases h
    trivial
  | case4 => cases h
  | case5 f spelling c r hshort g hg hr ih =>
    cases hrest : cluster g ['-', c] r with
    | error u' =>
      rw [hrest] at h
      cases h
      exact ih hrest
    | ok fs =>
      rw [hrest] at h
      cases h

theorem isOfFlag_of_mem_deeds {ws : List Word} {u : UsageError} (h : .refuse u ∈ deeds ws) :
    u.IsOfFlag := by
  have hasks := asks_deeds ws
  generalize deeds ws = ds at h hasks
  induction hasks with
  | unknown _ ih => exact ih h
  | strayLetters _ hletters _ ih =>
    rcases List.mem_cons.mp h with h | h
    · cases h
      exact cluster_isOfFlag hletters
    · exact ih h
  | letters _ _ _ ih =>
    rcases List.mem_append.mp h with h | h
    · simp at h
    · exact ih h
  | attached _ _ ih | switch _ _ ih | value _ _ ih => exact ih (by simpa using h)
  | missing _ _ _ ih =>
    rcases List.mem_cons.mp h with h | h
    · cases h
      trivial
    · exact ih h
  | others => cases h

theorem exit_of_switch (h : a.switch f = .error e) :
    (f = .help ∧ e = .help) ∨ (f = .version ∧ e = .version) ∨
      ∃ u : UsageError, e = .usage u ∧ u.IsOfFlag := by
  cases f with
  | help =>
    cases h
    exact .inl ⟨rfl, rfl⟩
  | version =>
    cases h
    exact .inr (.inl ⟨rfl, rfl⟩)
  | debug | dump =>
    rw [Arguments.switch] at h
    split at h
    case isTrue =>
      cases h
      exact .inr (.inr ⟨_, rfl, trivial⟩)
    case isFalse => cases h
  | _ => cases h

theorem exit_of_integer {v : String} {g : Int → Arguments}
    (h : (integer f v).map g = .error e) : ∃ u : UsageError, e = .usage u ∧ u.IsOfFlag := by
  unfold integer at h
  split at h
  · cases h
  · cases h
    exact ⟨_, rfl, trivial⟩

theorem exit_of_put {v : String} (h : a.put f v = .error e) :
    ∃ u : UsageError, e = .usage u ∧ u.IsOfFlag := by
  cases f with
  | msize | sp | port9p =>
    rw [Arguments.put] at h
    exact exit_of_integer h
  | network =>
    rw [Arguments.put] at h
    split at h
    case isTrue => cases h
    case isFalse =>
      cases h
      exact ⟨_, rfl, trivial⟩
  | _ => cases h

theorem exit_of_set {v : String} (h : a.set f v = .error e) :
    ∃ u : UsageError, e = .usage u ∧ u.IsOfFlag := by
  rw [Arguments.set] at h
  split at h
  case isTrue => cases h
  case isFalse => exact exit_of_put h

/-- A deed that ends everything is one of the two switches that leave on their own, or the fault of
an option. -/
theorem exit_of_act {ws : List Word} (hd : d ∈ deeds ws) (h : d.act a = .error e) :
    (d = .turnOn .help ∧ e = .help) ∨ (d = .turnOn .version ∧ e = .version) ∨
      ∃ u : UsageError, e = .usage u ∧ u.IsOfFlag := by
  cases d with
  | turnOn f => simpa using exit_of_switch h
  | give f v => exact .inr (.inr (exit_of_set h))
  | refuse u =>
    cases h
    exact .inr (.inr ⟨u, rfl, isOfFlag_of_mem_deeds hd⟩)

/-! ### Switches that exclude each other -/

namespace Arguments

def isOn (a : Arguments) : Flag → Bool
  | .debug => a.debug
  | .dump => a.dump
  | _ => false

theorem isOn_put {g : Flag} {v : String} (hb : a.put f v = .ok b) : b.isOn g = a.isOn g := by
  cases f with
  | msize | sp | port9p =>
    rw [put] at hb
    unfold integer at hb
    split at hb <;> cases hb
    cases g <;> rfl
  | network =>
    rw [put] at hb
    split at hb <;> cases hb
    cases g <;> rfl
  | _ =>
    cases hb
    cases g <;> rfl

theorem isOn_set {g : Flag} {v : String} (hb : a.set f v = .ok b) : b.isOn g = a.isOn g := by
  rw [set] at hb
  split at hb
  case isTrue =>
    cases hb
    cases g <;> rfl
  case isFalse =>
    rw [isOn_put hb]
    cases g <;> rfl

theorem isOn_switch {g : Flag} (hb : a.switch f = .ok b) (hg : a.isOn g) : b.isOn g := by
  cases f with
  | help | version => cases hb
  | debug | dump =>
    rw [switch] at hb
    split at hb <;> cases hb
    cases g <;> simp_all [isOn]
  | _ =>
    cases hb
    cases g <;> exact hg

theorem isOn_of_switch (hb : a.switch f = .ok b) (hf : f = .debug ∨ f = .dump) : b.isOn f := by
  rcases hf with rfl | rfl <;>
  · rw [switch] at hb
    split at hb <;> cases hb
    rfl

theorem isOn_positionals {g : Flag} (a : Arguments) (ws : List Word) :
    (a.positionals ws).isOn g = a.isOn g := by
  fun_cases positionals a ws <;> cases g <;> rfl

end Arguments

theorem isOn_act {g : Flag} (hg : g = .debug ∨ g = .dump) (hb : d.act a = .ok b)
    (h : d = .turnOn g ∨ a.isOn g) : b.isOn g := by
  cases d with
  | turnOn f =>
    rcases h with h | h
    · cases h
      exact Arguments.isOn_of_switch hb hg
    · exact Arguments.isOn_switch hb h
  | give f v =>
    rcases h with h | h
    · cases h
    · exact (Arguments.isOn_set hb).trans h
  | refuse u => cases hb

theorem isOn_actAll {g : Flag} (hg : g = .debug ∨ g = .dump) (hb : actAll a ds = .ok b)
    (h : .turnOn g ∈ ds ∨ a.isOn g) : b.isOn g := by
  induction ds generalizing a with
  | nil =>
    cases hb
    simpa using h
  | cons d ds ih =>
    rw [actAll_cons] at hb
    cases hd : d.act a with
    | error e =>
      rw [hd] at hb
      cases hb
    | ok c =>
      rw [hd] at hb
      refine ih hb ?_
      rcases h with h | h
      · rcases List.mem_cons.mp h with rfl | h
        · exact .inr (isOn_act hg hd (.inl rfl))
        · exact .inl h
      · exact .inr (isOn_act hg hd (.inr h))

/-! ### Reading a command line -/

/-- What a command line comes to whose words can be read: the fault of a deed or, in the end, the
options that nobody knows. -/
theorem parse_of_words {argv : List String} {ws : List Word} (hws : wordsOf argv = .ok ws) :
    ∃ (rest : List Word) (strays : List String),
      (∀ s ∈ strays, ⟨s, .unknown⟩ ∈ ws) ∧
      parse argv = (actAll {} (deeds ws)).bind fun a =>
        if strays = [] then .ok (a.positionals rest)
        else .error (.usage (.unrecognized strays)) := by
  obtain ⟨rest, strays, hstrays, hconsume⟩ := consume_eq [] ws
  refine ⟨rest, strays, fun s hs => (hstrays s hs).resolve_left List.not_mem_nil, ?_⟩
  rw [parse, hws]
  dsimp only
  rw [hconsume]
  cases actAll {} (deeds ws) with
  | error e => rfl
  | ok a => cases strays <;> rfl

theorem parse_exclusive {argv : List String} {ws : List Word} (hws : wordsOf argv = .ok ws)
    (hdebug : .turnOn .debug ∈ deeds ws) (hdump : .turnOn .dump ∈ deeds ws) :
    ∃ e, parse argv = .error e := by
  cases hparse : parse argv with
  | error e => exact ⟨e, rfl⟩
  | ok a =>
    have hexclusive := (Arguments.isParsed_of_parse hparse).exclusive
    obtain ⟨rest, strays, -, h⟩ := parse_of_words hws
    rw [h] at hparse
    cases hdone : actAll {} (deeds ws) with
    | error e =>
      rw [hdone] at hparse
      cases hparse
    | ok b =>
      rw [hdone] at hparse
      simp only [Except.bind] at hparse
      split at hparse
      case isFalse => cases hparse
      case isTrue =>
        cases hparse
        have hon {g : Flag} (hg : g = .debug ∨ g = .dump) (hmem : .turnOn g ∈ deeds ws) :
            (b.positionals rest).isOn g = true := by
          rw [Arguments.isOn_positionals]
          exact isOn_actAll hg hdone (.inl hmem)
        have hdebug : (b.positionals rest).debug = true := hon (.inl rfl) hdebug
        have hdump : (b.positionals rest).dump = true := hon (.inr rfl) hdump
        rw [hdebug, hdump] at hexclusive
        cases hexclusive

end Tether.CommandLine
