import Tether.Terminal.Escape
import Mathlib.Algebra.Group.Nat.Even
import Mathlib.Order.Bounds.Basic

/-! # The escape sequence in a whole input

Where the filter ends the input and what it lets through can be told from the
bytes alone. How the input is cut into chunks makes no difference.
-/

namespace Tether.Escape

/-- Ends in so many pairs of a line end and a tilde. -/
inductive EndsInPairs : Nat → Bytes → Prop
  | zero (p : Bytes) : EndsInPairs 0 p
  | succ {m : Nat} {p : Bytes} {b : UInt8} (h : EndsInPairs m p) (newline : isNewline b) :
      EndsInPairs (m + 1) (p ++ [b, tilde])

/-- The number of such pairs at the end, as many as there are, is even. -/
def EndsEvenly (p : Bytes) : Prop := ∃ m, IsGreatest {m | EndsInPairs m p} m ∧ Even m

/-- At this position a line end begins the sequence that ends the input. -/
structure Live (s : Bytes) (k : Nat) : Prop where
  newline : ∃ b, s[k]? = some b ∧ isNewline b
  tilde : s[k + 1]? = some tilde
  dot : s[k + 2]? = some dot
  even : EndsEvenly (s.take k)

def AtNewline (p : Bytes) : Prop := ∃ q b, p = q ++ [b] ∧ isNewline b ∧ EndsEvenly q

/-- Ends in a tilde that is held back. -/
def HoldsTilde (p : Bytes) : Prop := ∃ q, p = q ++ [tilde] ∧ AtNewline q

section Pairs

variable {m : Nat} {p q : Bytes} {b : UInt8}

theorem isNewline_ne_tilde (h : isNewline b) : b ≠ tilde := by
  rintro rfl
  exact absurd h (by decide)

theorem endsInPairs_pair_iff (hb : isNewline b) :
    EndsInPairs (m + 1) (q ++ [b, tilde]) ↔ EndsInPairs m q := by
  constructor
  · intro h
    generalize hp : q ++ [b, tilde] = p at h
    cases h with
    | succ h =>
      obtain ⟨rfl, -⟩ := List.append_inj' hp rfl
      exact h
  · exact fun h => .succ h hb

theorem isGreatest_pair (hb : isNewline b) (h : IsGreatest {m | EndsInPairs m q} m) :
    IsGreatest {m | EndsInPairs m (q ++ [b, tilde])} (m + 1) := by
  refine ⟨.succ h.1 hb, fun n hn => ?_⟩
  cases n with
  | zero => exact Nat.zero_le _
  | succ n => exact Nat.succ_le_succ (h.2 ((endsInPairs_pair_iff hb).mp hn))

theorem isGreatest_zero (h : ∀ q b, isNewline b → p ≠ q ++ [b, tilde]) :
    IsGreatest {m | EndsInPairs m p} 0 := by
  refine ⟨.zero p, fun n hn => ?_⟩
  cases hn with
  | zero => exact le_rfl
  | succ _ hb => exact absurd rfl (h _ _ hb)

theorem exists_isGreatest (p : Bytes) : ∃ m, IsGreatest {m | EndsInPairs m p} m := by
  induction hn : p.length using Nat.strongRecOn generalizing p with
  | ind n ih =>
    by_cases hp : ∃ q b, isNewline b ∧ p = q ++ [b, tilde]
    · obtain ⟨q, b, hb, rfl⟩ := hp
      have hlt : q.length < n := by simp [← hn]
      obtain ⟨m, hm⟩ := ih q.length hlt q rfl
      exact ⟨m + 1, isGreatest_pair hb hm⟩
    · exact ⟨0, isGreatest_zero fun q b hb e => hp ⟨q, b, hb, e⟩⟩

theorem endsEvenly_pair_iff (hb : isNewline b) :
    EndsEvenly (q ++ [b, tilde]) ↔ ¬ EndsEvenly q := by
  obtain ⟨m, hm⟩ := exists_isGreatest q
  have hq : EndsEvenly q ↔ Even m :=
    ⟨fun ⟨n, hn, he⟩ => hn.unique hm ▸ he, fun he => ⟨m, hm, he⟩⟩
  have hp : EndsEvenly (q ++ [b, tilde]) ↔ Even (m + 1) :=
    ⟨fun ⟨n, hn, he⟩ => hn.unique (isGreatest_pair hb hm) ▸ he,
      fun he => ⟨m + 1, isGreatest_pair hb hm, he⟩⟩
  rw [hp, hq, Nat.even_add_one]

/-- The pairs before a line end are even in number unless a tilde is held back there. -/
theorem endsEvenly_iff : EndsEvenly p ↔ ¬ HoldsTilde p := by
  by_cases hp : ∃ q b, isNewline b ∧ p = q ++ [b, tilde]
  · obtain ⟨q, b, hb, rfl⟩ := hp
    rw [endsEvenly_pair_iff hb, not_iff_not]
    constructor
    · exact fun h => ⟨q ++ [b], by simp, q, b, rfl, hb, h⟩
    · rintro ⟨q', he, q'', b', rfl, -, h⟩
      rw [List.append_assoc] at he
      obtain ⟨rfl, -⟩ := List.append_inj' he rfl
      exact h
  · constructor
    · rintro - ⟨q, rfl, q', b, rfl, hb, -⟩
      exact hp ⟨q', b, hb, by simp⟩
    · exact fun _ => ⟨0, isGreatest_zero fun q b hb e => hp ⟨q, b, hb, e⟩, .zero⟩

theorem atNewline_append_iff : AtNewline (p ++ [b]) ↔ isNewline b ∧ ¬ HoldsTilde p := by
  constructor
  · rintro ⟨q, b', he, hb, h⟩
    obtain ⟨rfl, hbb⟩ := List.append_inj' he rfl
    obtain rfl := List.singleton_inj.mp hbb
    exact ⟨hb, endsEvenly_iff.mp h⟩
  · exact fun ⟨hb, h⟩ => ⟨p, b, rfl, hb, endsEvenly_iff.mpr h⟩

theorem holdsTilde_append_iff : HoldsTilde (p ++ [b]) ↔ b = tilde ∧ AtNewline p := by
  constructor
  · rintro ⟨q, he, h⟩
    obtain ⟨rfl, hb⟩ := List.append_inj' he rfl
    exact ⟨List.singleton_inj.mp hb, h⟩
  · rintro ⟨rfl, h⟩
    exact ⟨p, rfl, h⟩

end Pairs

section Positions

variable {s t : Bytes} {k : Nat}

/-- A live position is where a tilde that is held back is followed by a point. -/
theorem live_iff : Live s k ↔ ∃ p r, s = p ++ dot :: r ∧ HoldsTilde p ∧ p.length = k + 2 := by
  constructor
  · rintro ⟨⟨b, hb, hnewline⟩, htilde, hdot, heven⟩
    have hp : s.take (k + 2) = s.take k ++ [b] ++ [tilde] := by
      rw [List.take_add_one, htilde, List.take_add_one, hb]
      rfl
    have hk : k + 2 < s.length := (List.getElem?_eq_some_iff.mp hdot).1
    refine ⟨s.take (k + 2), s.drop (k + 3), ?_, ?_, by simp; omega⟩
    · rw [← (List.getElem?_eq_some_iff.mp hdot).2, ← List.drop_eq_getElem_cons hk,
        List.take_append_drop]
    · exact ⟨_, hp, _, b, rfl, hnewline, heven⟩
  · rintro ⟨_, r, rfl, ⟨_, rfl, q, b, rfl, hb, h⟩, hlength⟩
    obtain rfl : q.length = k := by simpa using hlength
    exact ⟨⟨b, by simp, hb⟩, by simp, by simp, by simpa using h⟩

theorem live_append_iff : Live s k ↔ Live (s ++ t) k ∧ k + 2 < s.length := by
  constructor
  · rw [live_iff, live_iff]
    rintro ⟨p, r, rfl, hp, hlength⟩
    exact ⟨⟨p, r ++ t, by simp, hp, hlength⟩, by simp [hlength]⟩
  · rintro ⟨⟨⟨b, hb, hnewline⟩, htilde, hdot, heven⟩, hk⟩
    rw [List.getElem?_append_left (by omega)] at hb htilde hdot
    rw [List.take_append_of_le_length (by omega)] at heven
    exact ⟨⟨b, hb, hnewline⟩, htilde, hdot, heven⟩

end Positions

def held : EscapeState → Bytes
  | .armed => [tilde]
  | _ => []

def Standing : EscapeState → Bytes → Prop
  | .armed, p => HoldsTilde p
  | .afterNewline, p => AtNewline p
  | .normal, p => ¬ HoldsTilde p ∧ ¬ AtNewline p

section Steps

variable {st st' : EscapeState} {p out : Bytes} {b : UInt8}

theorem Standing.start : Standing .normal [] := by
  constructor
  · rintro ⟨q, he, -⟩
    simp at he
  · rintro ⟨q, b, he, -⟩
    simp at he

theorem Standing.armed_iff (h : Standing st p) : st = .armed ↔ HoldsTilde p := by
  cases st with
  | normal => exact ⟨nofun, fun h' => (h.1 h').elim⟩
  | afterNewline =>
    obtain ⟨q, c, rfl, hc, -⟩ := h
    refine ⟨nofun, fun h' => ?_⟩
    exact absurd (holdsTilde_append_iff.mp h').1 (isNewline_ne_tilde hc)
  | armed => exact iff_of_true rfl h

theorem step_conserves (h : step st b = some (st', out)) : out ++ held st' = held st ++ [b] := by
  cases st with
  | normal =>
    obtain ⟨rfl, rfl⟩ : (if isNewline b then .afterNewline else .normal) = st' ∧ [b] = out := by
      simpa [step] using h
    split <;> rfl
  | afterNewline =>
    by_cases hb : b = tilde
    · obtain ⟨rfl, rfl⟩ : .armed = st' ∧ [] = out := by simpa [step, hb] using h
      rw [hb]
      rfl
    · obtain ⟨rfl, rfl⟩ : (if isNewline b then .afterNewline else .normal) = st' ∧ [b] = out := by
        simpa [step, hb] using h
      split <;> rfl
  | armed =>
    obtain ⟨-, rfl, rfl⟩ : b ≠ dot ∧ .normal = st' ∧ [tilde, b] = out := by
      simpa [step] using h
    rfl

/-- The input ends at a point after a tilde that is held back. -/
theorem Standing.step_eq_none_iff (h : Standing st p) :
    step st b = none ↔ HoldsTilde p ∧ b = dot := by
  rw [← h.armed_iff]
  cases st with
  | normal => simp [step]
  | afterNewline => by_cases hb : b = tilde <;> simp [step, hb]
  | armed => simp [step]

theorem Standing.step (h : Standing st p) (hs : step st b = some (st', out)) :
    Standing st' (p ++ [b]) := by
  have hplain (hp : ¬ HoldsTilde p) (hb : ¬ (b = tilde ∧ AtNewline p)) :
      Standing (if isNewline b then .afterNewline else .normal) (p ++ [b]) := by
    split
    · rename_i hnewline
      exact atNewline_append_iff.mpr ⟨hnewline, hp⟩
    · rename_i hnewline
      exact ⟨mt holdsTilde_append_iff.mp hb, fun h => hnewline (atNewline_append_iff.mp h).1⟩
  have harmed := h.armed_iff
  cases st with
  | normal =>
    obtain ⟨rfl, -⟩ : (if isNewline b then .afterNewline else .normal) = st' ∧ [b] = out := by
      simpa [Escape.step] using hs
    exact hplain h.1 fun hb => h.2 hb.2
  | afterNewline =>
    by_cases hb : b = tilde
    · obtain ⟨rfl, -⟩ : .armed = st' ∧ [] = out := by simpa [Escape.step, hb] using hs
      exact holdsTilde_append_iff.mpr ⟨hb, h⟩
    · obtain ⟨rfl, -⟩ : (if isNewline b then .afterNewline else .normal) = st' ∧ [b] = out := by
        simpa [Escape.step, hb] using hs
      exact hplain (mt harmed.mpr nofun) fun hb' => hb hb'.1
  | armed =>
    obtain ⟨-, rfl, -⟩ : b ≠ dot ∧ .normal = st' ∧ [tilde, b] = out := by
      simpa [Escape.step] using hs
    refine ⟨fun hb => ?_, fun hb => (atNewline_append_iff.mp hb).2 h⟩
    obtain ⟨q, rfl, hq⟩ := h
    obtain ⟨-, hq'⟩ := holdsTilde_append_iff.mp hb
    have hnewline : isNewline tilde := (atNewline_append_iff.mp hq').1
    exact absurd hnewline (by decide)

end Steps

/-- What the filter does with bytes that follow others. -/
inductive Filters (st : EscapeState) (p bs : Bytes) : Bytes × Escape → Prop
  | closed {q r out : Bytes} (split : bs = q ++ dot :: r) (holds : HoldsTilde (p ++ q))
      (first : ∀ q' r', bs = q' ++ dot :: r' → HoldsTilde (p ++ q') → q.length ≤ q'.length)
      (conserves : out ++ [tilde] = held st ++ q) : Filters st p bs (out, ⟨.armed, true⟩)
  | passed {st' : EscapeState} {out : Bytes}
      (never : ∀ q r, bs = q ++ dot :: r → ¬ HoldsTilde (p ++ q))
      (standing : Standing st' (p ++ bs))
      (conserves : out ++ held st' = held st ++ bs) : Filters st p bs (out, ⟨st', false⟩)

theorem Filters.step {st st' : EscapeState} {p rest o out : Bytes} {b : UInt8} {e : Escape}
    (h : Standing st p) (hstep : step st b = some (st', o))
    (hrest : Filters st' (p ++ [b]) rest (out, e)) : Filters st p (b :: rest) (o ++ out, e) := by
  have hb : ¬ (HoldsTilde p ∧ b = dot) := by
    rw [← h.step_eq_none_iff, hstep]
    simp
  have hsplit {q r : Bytes} (hq : b :: rest = q ++ dot :: r) (hholds : HoldsTilde (p ++ q)) :
      ∃ q', q = b :: q' ∧ rest = q' ++ dot :: r ∧ HoldsTilde (p ++ [b] ++ q') := by
    cases q with
    | nil =>
      obtain ⟨rfl, -⟩ := List.cons.inj hq
      exact (hb ⟨by simpa using hholds, rfl⟩).elim
    | cons c q' =>
      obtain ⟨rfl, hrest⟩ := List.cons.inj hq
      exact ⟨q', rfl, hrest, by simpa using hholds⟩
  have hconserves {x y : Bytes} (hout : out ++ x = held st' ++ y) :
      (o ++ out) ++ x = held st ++ b :: y :=
    calc (o ++ out) ++ x = (o ++ held st') ++ y := by
          rw [List.append_assoc, hout, List.append_assoc]
      _ = held st ++ b :: y := by
          rw [step_conserves hstep, List.append_assoc, List.singleton_append]
  cases hrest with
  | @closed q r _ hq hholds hfirst hout =>
    refine .closed (q := b :: q) (r := r) (by rw [hq, List.cons_append]) (by simpa using hholds)
      (fun q' r' hq' hholds' => ?_) (hconserves hout)
    obtain ⟨q'', rfl, hrest', hholds''⟩ := hsplit hq' hholds'
    exact Nat.succ_le_succ (hfirst q'' r' hrest' hholds'')
  | passed hnever hstanding hout =>
    refine .passed (fun q r hq hholds => ?_) (by simpa using hstanding) (hconserves hout)
    obtain ⟨q', rfl, hrest', hholds'⟩ := hsplit hq hholds
    exact hnever q' r hrest' hholds'

theorem run_filters {st : EscapeState} {p : Bytes} (h : Standing st p) (bs : Bytes) :
    Filters st p bs (run st bs) := by
  -- What was filtered before grows as the bytes are taken, and the state keeps standing for it.
  induction bs generalizing st p with
  | nil => exact .passed (by simp) (by simpa using h) (by simp)
  | cons b rest ih =>
    rw [run]
    cases hstep : step st b with
    | none =>
      obtain ⟨hholds, rfl⟩ := h.step_eq_none_iff.mp hstep
      obtain rfl := h.armed_iff.mpr hholds
      exact .closed (q := []) (r := rest) rfl (by simpa using hholds) (by simp) rfl
    | some next => exact .step h hstep (ih (h.step hstep))

theorem feed_whole (s : Bytes) :
    (∃ k, IsLeast {k | Live s k} k ∧ (feed {} s).2.closed = true ∧
        (feed {} s).1 = s.take (k + 1)) ∨
      (∀ k, ¬ Live s k) ∧ (feed {} s).2.closed = false ∧
        (HoldsTilde s ∧ (feed {} s).1 = s.dropLast ∨ ¬ HoldsTilde s ∧ (feed {} s).1 = s) := by
  have hfeed : feed {} s = run .normal s := rfl
  have hfilters := run_filters Standing.start s
  rw [hfeed]
  generalize run .normal s = result at hfilters
  cases hfilters with
  | @closed q r out hs hholds hfirst hout =>
    obtain ⟨q', rfl, q'', b, rfl, -, -⟩ := id hholds
    have hleast : IsLeast {k | Live s k} q''.length := by
      refine ⟨live_iff.mpr ⟨_, r, hs, by simpa using hholds, by simp⟩, fun k hk => ?_⟩
      obtain ⟨p, r', hp, hholds', hlength⟩ := live_iff.mp hk
      have := hfirst p r' hp (by simpa using hholds')
      simp only [List.length_append, List.length_singleton] at this
      omega
    refine .inl ⟨q''.length, hleast, rfl, ?_⟩
    have hout : out ++ [tilde] = (q'' ++ [b]) ++ [tilde] := hout
    rw [List.append_cancel_right hout, hs, List.append_assoc]
    exact (List.take_left' (by simp)).symm
  | @passed st' out hnever hstanding hout =>
    refine .inr ⟨fun k hk => ?_, rfl, ?_⟩
    · obtain ⟨p, r, hp, hholds, -⟩ := live_iff.mp hk
      exact hnever p r hp (by simpa using hholds)
    · have harmed := hstanding.armed_iff
      simp only [List.nil_append] at harmed
      by_cases hst : st' = .armed
      · subst hst
        have hs : out ++ [tilde] = s := hout
        exact .inl ⟨harmed.mp rfl, by simp [← hs]⟩
      · have hnone : held st' = [] := by
          cases st' <;> first | rfl | exact absurd rfl hst
        rw [hnone, List.append_nil] at hout
        exact .inr ⟨mt harmed.mpr hst, hout⟩

/-- Feeds chunks one after the other: what comes out of each, and whether the filter reports
that the input has ended. -/
def feedAll (e : Escape) : List Bytes → List (Bytes × Bool)
  | [] => []
  | c :: r =>
    let (out, e) := e.feed c
    (out, e.closed) :: feedAll e r

section Chunks

variable (e : Escape)

theorem feed_nil : e.feed [] = ([], e) := by
  obtain ⟨st, closed⟩ := e
  cases closed <;> rfl

theorem feed_append (a b : Bytes) :
    e.feed (a ++ b) = ((e.feed a).1 ++ ((e.feed a).2.feed b).1, ((e.feed a).2.feed b).2) := by
  have hrun (st : EscapeState) : run st (a ++ b) =
      ((run st a).1 ++ ((run st a).2.feed b).1, ((run st a).2.feed b).2) := by
    induction a generalizing st with
    | nil => simp [run, feed]
    | cons c rest ih =>
      rw [List.cons_append, run, run]
      cases step st c with
      | none => simp [feed]
      | some next => simp [ih]
  cases hc : e.closed with
  | true => simp [feed, hc]
  | false => simpa [feed, hc] using hrun e.state

theorem feedAll_outputs (chunks : List Bytes) :
    (e.feedAll chunks).flatMap (·.1) = (e.feed chunks.flatten).1 := by
  induction chunks generalizing e with
  | nil => simp [feedAll, feed_nil]
  | cons c rest ih => simp [feedAll, feed_append, ih]

theorem feedAll_reports (chunks : List Bytes) :
    (e.feedAll chunks).map (·.2) = (List.range chunks.length).map fun i =>
      (e.feed (chunks.take (i + 1)).flatten).2.closed := by
  induction chunks generalizing e with
  | nil => rfl
  | cons c rest ih =>
    rw [feedAll, List.map_cons, ih, List.length_cons, List.range_succ_eq_map, List.map_cons,
      List.map_map]
    simp [Function.comp_def, feed_append]

end Chunks

/-- Whether the input has ended after some of it can be told from the first live position. -/
theorem closed_eq_of_isLeast {s t : Bytes} {k : Nat} (h : IsLeast {k | Live (s ++ t) k} k) :
    (feed {} s).2.closed = decide (k + 2 < s.length) := by
  obtain ⟨k', hk', hclosed, -⟩ | ⟨hnever, hopen, -⟩ := feed_whole s
  · obtain ⟨hlive, hlt⟩ := live_append_iff (t := t).mp hk'.1
    have hle := h.2 hlive
    rw [hclosed, eq_comm, decide_eq_true_iff]
    omega
  · have hlt : ¬ k + 2 < s.length := fun hlt => hnever k (live_append_iff.mpr ⟨h.1, hlt⟩)
    rw [hopen, decide_eq_false hlt]

/-- Whatever the chunks are that an input is fed in, what comes out is decided by the input: all
up to the line end of the first live position, and the end is reported from the chunk on that
brings the last byte of the sequence; or, if no position is live, all but a tilde that is held
back at the end. -/
theorem feedAll_exact (chunks : List Bytes) :
    ((∃ k, IsLeast {k | Live chunks.flatten k} k ∧
        (feedAll {} chunks).flatMap (·.1) = chunks.flatten.take (k + 1) ∧
        (feedAll {} chunks).map (·.2) = (List.range chunks.length).map fun i =>
          decide (k + 2 < (chunks.take (i + 1)).flatten.length)) ∨
      (∀ k, ¬ Live chunks.flatten k) ∧ (∀ r ∈ feedAll {} chunks, r.2 = false) ∧
        (HoldsTilde chunks.flatten ∧
            (feedAll {} chunks).flatMap (·.1) = chunks.flatten.dropLast ∨
          ¬ HoldsTilde chunks.flatten ∧
            (feedAll {} chunks).flatMap (·.1) = chunks.flatten)) ∧
      (feedAll {} chunks).flatMap (·.1) = (feedAll {} [chunks.flatten]).flatMap (·.1) := by
  have hsplit (i : Nat) : chunks.flatten =
      (chunks.take (i + 1)).flatten ++ (chunks.drop (i + 1)).flatten := by
    rw [← List.flatten_append, List.take_append_drop]
  refine ⟨?_, by simp [feedAll_outputs]⟩
  rw [feedAll_outputs]
  obtain ⟨k, hk, -, hout⟩ | ⟨hnever, -, hout⟩ := feed_whole chunks.flatten
  · refine .inl ⟨k, hk, hout, ?_⟩
    rw [feedAll_reports]
    refine List.map_congr_left fun i _ => ?_
    rw [hsplit i] at hk
    exact closed_eq_of_isLeast hk
  · refine .inr ⟨hnever, fun r hr => ?_, hout⟩
    have hreport : r.2 ∈ (feedAll {} chunks).map (·.2) := List.mem_map_of_mem hr
    rw [feedAll_reports] at hreport
    obtain ⟨i, -, hi⟩ := List.mem_map.mp hreport
    rw [← hi]
    obtain ⟨k, hk, -⟩ | ⟨-, hopen, -⟩ := feed_whole (chunks.take (i + 1)).flatten
    · have hlive := (live_append_iff (t := (chunks.drop (i + 1)).flatten)).mp hk.1
      rw [← hsplit i] at hlive
      exact (hnever k hlive.1).elim
    · exact hopen

/-- The tilde between two line ends goes with the second, so the point ends nothing. -/
example : feedAll {} [[0x0a, 0x7e], [0x0a, 0x7e, 0x2e]] =
    [([0x0a], false), ([0x7e, 0x0a, 0x7e, 0x2e], false)] := by decide

end Tether.Escape
