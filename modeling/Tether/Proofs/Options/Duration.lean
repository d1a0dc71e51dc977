import Tether.Options.Check
import Mathlib.Algebra.BigOperators.Group.List.Basic
import Mathlib.Data.List.TakeWhile
import Mathlib.Algebra.Field.Rat
import Mathlib.Tactic.FieldSimp
import Mathlib.Tactic.NormNum
import Mathlib.Tactic.Ring

/-! # The grammar of durations

A text is a duration if, without the blanks around it, it is an optional sign and then a lone zero
or one or more terms, each a decimal number directly followed by a unit. No text can be cut into
terms in two ways, and in exact arithmetic its value is the sign times the sum of the terms.
-/

namespace Tether

namespace Text

theorem ofDecimals_foldl (cs : List Char) (n : Nat) :
    cs.foldl (fun n c => n * 10 + (decimal? c).getD 0) n =
      n * 10 ^ cs.length + ofDecimals cs := by
  induction cs generalizing n with
  | nil => simp [ofDecimals]
  | cons c r ih =>
    rw [ofDecimals, List.foldl_cons, List.foldl_cons, ih, ih (0 * 10 + _), List.length_cons,
      pow_succ]
    ring

theorem ofDecimals_append (cs ds : List Char) :
    ofDecimals (cs ++ ds) = ofDecimals cs * 10 ^ ds.length + ofDecimals ds := by
  rw [ofDecimals, List.foldl_append, ofDecimals_foldl]
  rfl

end Text

namespace TimeUnit

def marks : List (List Char × TimeUnit) :=
  [(['n', 's'], .ns), (['u', 's'], .us), (['\u00b5', 's'], .us), (['m', 's'], .ms), (['s'], .s),
    (['m'], .m), (['h'], .h)]

variable {mark r cs : List Char} {u : TimeUnit}

/-- A unit is read back unless what follows makes minutes of a longer one. -/
theorem read?_append (h : (mark, u) ∈ marks) (hr : r.head? ≠ some 's') :
    read? (mark ++ r) = some (u, r) := by
  simp only [marks, List.mem_cons, Prod.mk.injEq, List.not_mem_nil, or_false] at h
  obtain ⟨rfl, rfl⟩ | ⟨rfl, rfl⟩ | ⟨rfl, rfl⟩ | ⟨rfl, rfl⟩ | ⟨rfl, rfl⟩ | ⟨rfl, rfl⟩ | ⟨rfl, rfl⟩ := h
  case inr.inr.inr.inr.inr.inl =>
    cases r with
    | nil => rfl
    | cons c r =>
      rw [List.head?_cons, ne_eq, Option.some.injEq] at hr
      simp [read?, hr]
  all_goals rfl

theorem exists_mark_of_read? (h : read? cs = some (u, r)) :
    ∃ mark, (mark, u) ∈ marks ∧ cs = mark ++ r := by
  unfold read? at h
  split at h <;> simp only [Option.some.injEq, Prod.mk.injEq, reduceCtorEq] at h <;>
    obtain ⟨rfl, rfl⟩ := h
  · exact ⟨['n', 's'], by decide, rfl⟩
  · exact ⟨['u', 's'], by decide, rfl⟩
  · exact ⟨['\u00b5', 's'], by decide, rfl⟩
  · exact ⟨['m', 's'], by decide, rfl⟩
  · exact ⟨['s'], by decide, rfl⟩
  · exact ⟨['m'], by decide, rfl⟩
  · exact ⟨['h'], by decide, rfl⟩

/-- A unit is neither begun by a digit nor by a point. -/
theorem exists_cons_of_mem_marks (h : (mark, u) ∈ marks) :
    ∃ c t, mark = c :: t ∧ c ≠ '.' ∧ Text.isDecimal c = false := by
  simp only [marks, List.mem_cons, Prod.mk.injEq, List.not_mem_nil, or_false] at h
  obtain ⟨rfl, -⟩ | ⟨rfl, -⟩ | ⟨rfl, -⟩ | ⟨rfl, -⟩ | ⟨rfl, -⟩ | ⟨rfl, -⟩ | ⟨rfl, -⟩ := h <;>
    exact ⟨_, _, rfl, by decide, by decide⟩

end TimeUnit

namespace Duration

open Text

/-- An unsigned decimal number as it is written: digits, with a point and further digits or
without, or a point and digits. -/
@[ext]
structure Numeral where
  whole : List Char
  fraction : Option (List Char)
  decimal : ∀ c ∈ whole ++ fraction.getD [], isDecimal c = true
  nonempty : whole ++ fraction.getD [] ≠ []

namespace Numeral

variable (n : Numeral)

def chars : List Char := n.whole ++ n.fraction.elim [] ('.' :: ·)

def value : ℚ :=
  ofDecimals n.whole + ofDecimals (n.fraction.getD []) / 10 ^ (n.fraction.getD []).length

end Numeral

@[ext]
structure Spelling where
  numeral : Numeral
  mark : List Char
  unit : TimeUnit
  marks : (mark, unit) ∈ TimeUnit.marks

namespace Spelling

variable (t : Spelling)

def chars : List Char := t.numeral.chars ++ t.mark

def seconds : ℚ := t.numeral.value * t.unit.seconds

end Spelling

inductive Sign
  | absent | plus | minus
  deriving DecidableEq

namespace Sign

def chars : Sign → List Char
  | absent => []
  | plus => ['+']
  | minus => ['-']

def factor : Sign → ℚ
  | absent | plus => 1
  | minus => -1

end Sign

/-- The seconds that a text without blanks around it stands for. -/
inductive Denotes : List Char → ℚ → Prop
  | zero (s : Sign) : Denotes (s.chars ++ ['0']) 0
  | terms (s : Sign) {ts : List Spelling} (hts : ts ≠ []) :
    Denotes (s.chars ++ ts.flatMap Spelling.chars) (s.factor * (ts.map Spelling.seconds).sum)

/-! ### Reading a term -/

theorem Numeral.eq_of_chars {n m : Numeral} (hwhole : n.whole = m.whole) (h : n.chars = m.chars) :
    n = m := by
  rw [chars, chars, hwhole] at h
  have hfraction := List.append_cancel_left h
  ext1
  · exact hwhole
  · cases hn : n.fraction <;> cases hm : m.fraction <;> simp_all

def Stops (r : List Char) : Prop := ∀ c ∈ r.head?, c ≠ '.' ∧ isDecimal c = false

theorem takeWhile_append_stops {w r : List Char} (hw : ∀ c ∈ w, isDecimal c = true)
    (hr : ∀ c ∈ r.head?, isDecimal c = false) :
    (w ++ r).takeWhile isDecimal = w ∧ (w ++ r).dropWhile isDecimal = r := by
  have hnone : r.takeWhile isDecimal = [] ∧ r.dropWhile isDecimal = r := by
    cases r with
    | nil => exact ⟨rfl, rfl⟩
    | cons c r =>
      have hc := hr c rfl
      simp [hc]
  rw [List.takeWhile_append_of_pos hw, List.dropWhile_append_of_pos hw, hnone.1, hnone.2,
    List.append_nil]
  exact ⟨rfl, rfl⟩

theorem decimal?_append (n : Numeral) {r : List Char} (hr : Stops r) :
    decimal? (n.chars ++ r) = some (n.whole, n.fraction.getD [], r) := by
  obtain ⟨whole, fraction, hdecimal, hne⟩ := n
  have hwhole : ∀ c ∈ whole, isDecimal c = true := fun c hc => hdecimal c (List.mem_append_left _ hc)
  cases fraction with
  | none =>
    obtain ⟨htake, hdrop⟩ := takeWhile_append_stops hwhole fun c hc => (hr c hc).2
    simp only [Option.getD_none, List.append_nil] at hne
    simp only [Numeral.chars, Option.elim_none, List.append_nil, decimal?, htake, hdrop, hne,
      Option.getD_none]
    split
    · exact absurd rfl (hr '.' rfl).1
    · simp
  | some f =>
    have hf : ∀ c ∈ f, isDecimal c = true := fun c hc => hdecimal c (List.mem_append_right _ hc)
    obtain ⟨htake, hdrop⟩ := takeWhile_append_stops (r := '.' :: (f ++ r)) hwhole
      (by rintro c ⟨⟩; decide)
    obtain ⟨htake', hdrop'⟩ := takeWhile_append_stops hf fun c hc => (hr c hc).2
    have hne' : ¬ (whole = [] ∧ f = []) := by simpa using hne
    simp only [Numeral.chars, Option.elim_some, List.append_assoc, List.cons_append, decimal?,
      htake, hdrop, htake', hdrop', Option.getD_some, hne', if_false]

theorem exists_numeral_of_decimal? {cs w f r : List Char} (h : decimal? cs = some (w, f, r)) :
    ∃ n : Numeral, cs = n.chars ++ r ∧ n.whole = w ∧ n.fraction.getD [] = f := by
  have hdigits (ds : List Char) : ∀ c ∈ ds.takeWhile isDecimal, isDecimal c = true :=
    fun c hc => List.mem_takeWhile_imp hc
  have hcut := List.takeWhile_append_dropWhile (p := isDecimal) (l := cs)
  unfold decimal? at h
  split at h
  · rename_i t ht
    rw [ht] at hcut
    split at h
    · cases h
    · rename_i hne
      simp only [Option.some.injEq, Prod.mk.injEq] at h
      obtain ⟨rfl, rfl, rfl⟩ := h
      refine ⟨⟨cs.takeWhile isDecimal, some (t.takeWhile isDecimal), ?_, ?_⟩, ?_, rfl, rfl⟩
      · intro c hc
        exact (List.mem_append.mp hc).elim (hdigits cs c) (hdigits t c)
      · simpa using hne
      · simp [Numeral.chars, hcut]
  · split at h
    · cases h
    · rename_i hne
      simp only [Option.some.injEq, Prod.mk.injEq] at h
      obtain ⟨rfl, rfl, rfl⟩ := h
      refine ⟨⟨cs.takeWhile isDecimal, none, ?_, ?_⟩, ?_, rfl, rfl⟩
      · simpa using hdigits cs
      · simpa using hne
      · simp [Numeral.chars, hcut]

theorem ofScientific_eq (m e : Nat) : (OfScientific.ofScientific m true e : ℚ) = m / 10 ^ e := by
  change Rat.ofScientific m true e = _
  rw [Rat.ofScientific_true_def, Rat.mkRat_eq_div]
  push_cast
  rfl

namespace Spelling

def term (t : Spelling) : Term where
  mantissa := ofDecimals (t.numeral.whole ++ t.numeral.fraction.getD [])
  places := (t.numeral.fraction.getD []).length
  unit := t.unit

theorem seconds_term (t : Spelling) : (t.term.seconds : ℚ) = t.seconds := by
  have hpow : (10 : ℚ) ^ (t.numeral.fraction.getD []).length ≠ 0 := pow_ne_zero _ (by norm_num)
  rw [seconds, Term.seconds, Numeral.value, term, ofScientific_eq, ofDecimals_append]
  push_cast
  rw [add_div, mul_div_cancel_right₀ _ hpow]

variable {t u : Spelling} {r s : List Char}

theorem stops_mark (t : Spelling) (r : List Char) : Stops (t.mark ++ r) := by
  obtain ⟨c, m, hmark, hpoint, hdecimal⟩ := TimeUnit.exists_cons_of_mem_marks t.marks
  rw [hmark]
  rintro d ⟨⟩
  exact ⟨hpoint, hdecimal⟩

/-- A term is read back, whatever follows it does not lengthen its unit. -/
theorem term?_append (t : Spelling) (hr : r.head? ≠ some 's') :
    term? (t.chars ++ r) = some (t.term, r) := by
  rw [term?, chars, List.append_assoc, decimal?_append _ (t.stops_mark r)]
  dsimp only
  rw [TimeUnit.read?_append t.marks hr]
  rfl

theorem exists_of_term? {cs : List Char} {x : Term} (h : term? cs = some (x, r)) :
    ∃ t : Spelling, cs = t.chars ++ r ∧ t.term = x := by
  unfold term? at h
  split at h
  · cases h
  · rename_i w f rest hdecimal
    split at h
    · cases h
    · rename_i u r' hunit
      simp only [Option.some.injEq, Prod.mk.injEq] at h
      obtain ⟨rfl, rfl⟩ := h
      obtain ⟨n, rfl, rfl, rfl⟩ := exists_numeral_of_decimal? hdecimal
      obtain ⟨mark, hmark, rfl⟩ := TimeUnit.exists_mark_of_read? hunit
      exact ⟨⟨n, mark, u, hmark⟩, by simp [chars], rfl⟩

/-- Texts that begin with the same term go on in the same way. -/
theorem append_inj (hr : r.head? ≠ some 's') (hs : s.head? ≠ some 's')
    (h : t.chars ++ r = u.chars ++ s) : t = u ∧ r = s := by
  have hread := t.term?_append hr
  rw [h, u.term?_append hs, Option.some.injEq, Prod.mk.injEq] at hread
  obtain ⟨hterm, rfl⟩ := hread
  have hchars : t.numeral.chars ++ t.mark = u.numeral.chars ++ u.mark :=
    List.append_cancel_right h
  have hnumeral := decimal?_append t.numeral (t.stops_mark [])
  rw [List.append_nil, hchars] at hnumeral
  have hother := decimal?_append u.numeral (u.stops_mark [])
  rw [List.append_nil, hnumeral, Option.some.injEq, Prod.mk.injEq, Prod.mk.injEq] at hother
  obtain ⟨hwhole, -, hmark⟩ := hother
  have hpoint : t.numeral.chars = u.numeral.chars := by
    rw [hmark] at hchars
    exact List.append_cancel_right hchars
  refine ⟨?_, rfl⟩
  ext1
  · exact Numeral.eq_of_chars hwhole hpoint
  · exact hmark
  · exact (congrArg Term.unit hterm).symm

theorem exists_cons (t : Spelling) : ∃ c cs, t.chars = c :: cs ∧ (isDecimal c = true ∨ c = '.') := by
  obtain ⟨⟨whole, fraction, hdecimal, hne⟩, mark, unit, hmark⟩ := t
  cases whole with
  | cons c w => exact ⟨c, _, rfl, .inl (hdecimal c List.mem_cons_self)⟩
  | nil =>
    cases fraction with
    | none => exact absurd rfl hne
    | some f => exact ⟨'.', _, rfl, .inr rfl⟩

theorem head?_flatMap (ts : List Spelling) {c : Char} (hdecimal : isDecimal c = false)
    (hpoint : c ≠ '.') : (ts.flatMap chars).head? ≠ some c := by
  cases ts with
  | nil =>
    intro h
    cases h
  | cons t ts =>
    obtain ⟨d, cs, hchars, hd⟩ := t.exists_cons
    rw [List.flatMap_cons, hchars]
    rintro ⟨⟩
    rcases hd with hd | rfl
    · rw [hd] at hdecimal
      cases hdecimal
    · exact hpoint rfl

end Spelling

/-! ### Reading all terms -/

theorem terms?_of_term? {cs r : List Char} {x : Term} (h : term? cs = some (x, r)) :
    terms? cs = if r = [] then some [x] else (terms? r).map (x :: ·) := by
  rw [terms?]
  split
  · rename_i hnone
    cases h.symm.trans hnone
  · rename_i x' r' hsome
    cases h.symm.trans hsome
    rfl

theorem terms?_of_eq_none {cs : List Char} (h : term? cs = none) : terms? cs = none := by
  rw [terms?]
  split
  · rfl
  · rename_i hsome
    cases h.symm.trans hsome

theorem terms?_flatMap {ts : List Spelling} (hts : ts ≠ []) :
    terms? (ts.flatMap Spelling.chars) = some (ts.map Spelling.term) := by
  induction ts with
  | nil => exact absurd rfl hts
  | cons t ts ih =>
    have hs : (ts.flatMap Spelling.chars).head? ≠ some 's' :=
      Spelling.head?_flatMap ts (by decide) (by decide)
    rw [List.flatMap_cons, terms?_of_term? (t.term?_append hs)]
    cases ts with
    | nil => rfl
    | cons u ts =>
      obtain ⟨c, cs, hchars, -⟩ := u.exists_cons
      rw [if_neg (by simp [hchars]), ih (List.cons_ne_nil _ _)]
      rfl

theorem exists_of_terms? {cs : List Char} {xs : List Term} (h : terms? cs = some xs) :
    ∃ ts : List Spelling, ts ≠ [] ∧ cs = ts.flatMap Spelling.chars ∧ ts.map Spelling.term = xs := by
  fun_induction terms? cs generalizing xs with
  | case1 cs hnone => cases h
  | case2 cs x hsome =>
    cases h
    obtain ⟨t, hcs, rfl⟩ := Spelling.exists_of_term? hsome
    exact ⟨[t], List.cons_ne_nil _ _, by simpa using hcs, rfl⟩
  | case3 cs x r hsome _ ih =>
    obtain ⟨ys, hys, rfl⟩ := Option.map_eq_some_iff.mp h
    obtain ⟨ts, -, rfl, rfl⟩ := ih hys
    obtain ⟨t, rfl, rfl⟩ := Spelling.exists_of_term? hsome
    exact ⟨t :: ts, List.cons_ne_nil _ _, rfl, rfl⟩

theorem flatMap_chars_injective {ts us : List Spelling}
    (h : ts.flatMap Spelling.chars = us.flatMap Spelling.chars) : ts = us := by
  induction ts generalizing us with
  | nil =>
    cases us with
    | nil => rfl
    | cons u us =>
      obtain ⟨c, cs, hchars, -⟩ := u.exists_cons
      simp [hchars] at h
  | cons t ts ih =>
    cases us with
    | nil =>
      obtain ⟨c, cs, hchars, -⟩ := t.exists_cons
      simp [hchars] at h
    | cons u us =>
      rw [List.flatMap_cons, List.flatMap_cons] at h
      obtain ⟨rfl, hrest⟩ := Spelling.append_inj (Spelling.head?_flatMap ts (by decide) (by decide))
        (Spelling.head?_flatMap us (by decide) (by decide)) h
      rw [ih hrest]

/-! ### Signs -/

def Sign.isMinus : Sign → Bool
  | minus => true
  | _ => false

theorem ofChars?_append (s : Sign) {body : List Char} (hplus : body.head? ≠ some '+')
    (hminus : body.head? ≠ some '-') :
    ofChars? (s.chars ++ body) =
      if body = ['0'] then some {} else (terms? body).map (⟨s.isMinus, ·⟩) := by
  cases s with
  | plus => rfl
  | minus => rfl
  | absent =>
    cases body with
    | nil => rfl
    | cons c r =>
      simp only [List.head?_cons, ne_eq, Option.some.injEq] at hplus hminus
      simp [ofChars?, Sign.chars, hplus, hminus, Sign.isMinus]

theorem ofChars?_cases (cs : List Char) : ∃ (s : Sign) (body : List Char), cs = s.chars ++ body ∧
    ofChars? cs = if body = ['0'] then some {} else (terms? body).map (⟨s.isMinus, ·⟩) := by
  unfold ofChars?
  split
  rename_i negative body hsign
  split at hsign <;> cases hsign
  · exact ⟨.minus, body, rfl, rfl⟩
  · exact ⟨.plus, body, rfl, rfl⟩
  · exact ⟨.absent, cs, rfl, rfl⟩

/-! ### The value -/

theorem seconds_terms (s : Sign) (ts : List Spelling) :
    (seconds ⟨s.isMinus, ts.map Spelling.term⟩ : ℚ) =
      s.factor * (ts.map Spelling.seconds).sum := by
  have hsum (x : ℚ) : (ts.map Spelling.term).foldl (fun total t => total + t.seconds) x =
      x + (ts.map Spelling.seconds).sum := by
    induction ts generalizing x with
    | nil => simp
    | cons t ts ih =>
      rw [List.map_cons, List.foldl_cons, ih, Spelling.seconds_term, List.map_cons, List.sum_cons,
        add_assoc]
  rw [seconds, hsum]
  cases s <;> norm_num [Sign.isMinus, Sign.factor]

theorem ofChars?_seconds_iff {cs : List Char} {x : ℚ} :
    (∃ d, ofChars? cs = some d ∧ d.seconds = x) ↔ Denotes cs x := by
  constructor
  · rintro ⟨d, hd, rfl⟩
    obtain ⟨s, body, rfl, hread⟩ := ofChars?_cases cs
    rw [hread] at hd
    split at hd
    · rename_i hzero
      obtain rfl : _ = d := Option.some.inj hd
      rw [hzero]
      have hseconds : (seconds {} : ℚ) = 0 := by norm_num [seconds]
      exact hseconds ▸ .zero s
    · obtain ⟨xs, hxs, rfl⟩ := Option.map_eq_some_iff.mp hd
      obtain ⟨ts, hts, rfl, rfl⟩ := exists_of_terms? hxs
      exact seconds_terms s ts ▸ .terms s hts
  · intro h
    cases h with
    | zero s =>
      refine ⟨_, ofChars?_append s (by decide) (by decide), ?_⟩
      norm_num [seconds]
    | @terms s ts hts =>
      have hplus := Spelling.head?_flatMap ts (c := '+') (by decide) (by decide)
      have hminus := Spelling.head?_flatMap ts (c := '-') (by decide) (by decide)
      have hzero : ts.flatMap Spelling.chars ≠ ['0'] := by
        intro hzero
        have hread := terms?_flatMap hts
        rw [hzero, terms?_of_eq_none rfl] at hread
        cases hread
      refine ⟨_, ?_, seconds_terms s ts⟩
      rw [ofChars?_append s hplus hminus, if_neg hzero, terms?_flatMap hts]
      rfl

theorem chars_flatMap_inj {s s' : Sign} {ts ts' : List Spelling}
    (h : s.chars ++ ts.flatMap Spelling.chars = s'.chars ++ ts'.flatMap Spelling.chars) :
    s = s' ∧ ts = ts' := by
  have hplus (us : List Spelling) := Spelling.head?_flatMap us (c := '+') (by decide) (by decide)
  have hminus (us : List Spelling) := Spelling.head?_flatMap us (c := '-') (by decide) (by decide)
  have hsign : s = s' := by
    have hhead := congrArg List.head? h
    cases s <;> cases s' <;> grind [Sign.chars]
  subst hsign
  exact ⟨rfl, flatMap_chars_injective (List.append_cancel_left h)⟩

theorem secondsOf_text_eq_error_iff {s : String} :
    Options.secondsOf (.text s) = .error (.duration (faultText s)) ↔ read? s = none := by
  rw [Options.secondsOf]
  cases read? s <;> simp

/-- The texts that are read as durations are those that the grammar allows, in one way each, and in
exact arithmetic their seconds are what the grammar says. Every other text is at fault. -/
theorem read?_grammar (s : String) :
    (∀ x : ℚ, (∃ d, read? s = some d ∧ d.seconds = x) ↔ Denotes (trim s.toList) x) ∧
      (∀ (p q : Sign) (ts us : List Spelling),
        p.chars ++ ts.flatMap Spelling.chars = q.chars ++ us.flatMap Spelling.chars →
          p = q ∧ ts = us) ∧
      (Options.secondsOf (.text s) = .error (.duration (faultText s)) ↔
        ∀ x, ¬ Denotes (trim s.toList) x) := by
  refine ⟨fun x => ofChars?_seconds_iff, fun p q ts us => chars_flatMap_inj, ?_⟩
  rw [secondsOf_text_eq_error_iff, Option.eq_none_iff_forall_ne_some]
  constructor
  · intro hnone x hx
    obtain ⟨d, hd, -⟩ := ofChars?_seconds_iff.mpr hx
    exact hnone d hd
  · intro h d hd
    exact h _ (ofChars?_seconds_iff.mp ⟨d, hd, rfl⟩)

end Duration

end Tether
