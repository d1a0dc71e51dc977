import Tether.Surroundings.Log
import Mathlib.Data.List.Basic

/-! # Line ends on a terminal

What is logged to a terminal has a carriage return before every line feed. Carriage returns are all
that is added, and a line end that has one already gets no second one.
-/

namespace Tether

namespace Text

variable {c : Char} {r s t : List Char}

/-! ### Replacing -/

/-- The text with every occurrence of `first :: others` replaced, from the left on and without
overlaps. -/
def replace (first : Char) (others new : List Char) : List Char → List Char
  | [] => []
  | c :: r =>
    if first :: others <+: c :: r then new ++ replace first others new (r.drop others.length)
    else c :: replace first others new r
termination_by text => text.length

theorem replace_nil (first : Char) (others new : List Char) : replace first others new [] = [] := by
  rw [replace]

theorem replace_append (first : Char) (others new r : List Char) :
    replace first others new (first :: (others ++ r)) = new ++ replace first others new r := by
  rw [replace, if_pos ⟨r, rfl⟩, List.drop_left]

theorem replace_cons {first : Char} {others : List Char} (new : List Char)
    (h : ¬ first :: others <+: c :: r) :
    replace first others new (c :: r) = c :: replace first others new r := by
  rw [replace, if_neg h]

theorem replace_singleton (first : Char) (new t : List Char) :
    replace first [] new t = t.flatMap fun c => if c = first then new else [c] := by
  induction t with
  | nil => exact replace_nil _ _ _
  | cons c r ih =>
    rw [List.flatMap_cons, ← ih]
    by_cases hc : c = first
    · subst hc
      rw [if_pos rfl]
      exact replace_append c [] new r
    · rw [if_neg hc, List.singleton_append]
      refine replace_cons new ?_
      rw [List.cons_prefix_cons]
      exact fun h => hc h.1.symm

def joined (t : List Char) : List Char := replace '\r' ['\n'] ['\n'] t

def parted (t : List Char) : List Char := replace '\n' [] ['\r', '\n'] t

theorem joined_lineEnd (r : List Char) : joined ('\r' :: '\n' :: r) = '\n' :: joined r :=
  replace_append '\r' ['\n'] ['\n'] r

theorem joined_cons (h : ¬ ['\r', '\n'] <+: c :: r) : joined (c :: r) = c :: joined r :=
  replace_cons ['\n'] h

theorem parted_append (s t : List Char) : parted (s ++ t) = parted s ++ parted t := by
  simp only [parted, replace_singleton, List.flatMap_append]

theorem parted_lineFeed (r : List Char) : parted ('\n' :: r) = '\r' :: '\n' :: parted r :=
  replace_append '\n' [] ['\r', '\n'] r

theorem parted_cons (h : c ≠ '\n') (r : List Char) : parted (c :: r) = c :: parted r := by
  refine replace_cons ['\r', '\n'] ?_
  rw [List.cons_prefix_cons]
  exact fun hprefix => h hprefix.1.symm

/-- No line feed comes first once the line feeds have got their carriage returns. -/
theorem not_prefix_parted (c : Char) (r : List Char) : ¬ ['\r', '\n'] <+: c :: parted r := by
  rw [List.cons_prefix_cons]
  rintro ⟨-, rest, hrest⟩
  cases r with
  | nil => rw [parted, replace_nil] at hrest; cases hrest
  | cons d q =>
    by_cases hd : d = '\n'
    · rw [hd, parted_lineFeed] at hrest; cases hrest
    · rw [parted_cons hd] at hrest
      exact hd (List.cons.inj hrest).1.symm

theorem joined_parted (t : List Char) : joined (parted t) = t := by
  induction t with
  | nil => simp only [joined, parted, replace_nil]
  | cons c r ih =>
    by_cases hc : c = '\n'
    · rw [hc, parted_lineFeed, joined_lineEnd, ih]
    · rw [parted_cons hc, joined_cons (not_prefix_parted c r), ih]

/-! ### Carriage returns before line feeds -/

/-- Every line feed stands right after a carriage return. -/
def IsRaw (t : List Char) : Prop :=
  ∀ before after, t = before ++ '\n' :: after → before.getLast? = some '\r'

theorem isRaw_nil : IsRaw [] := by
  intro before after h
  simp at h

theorem isRaw_lineEnd_iff : IsRaw ('\r' :: '\n' :: r) ↔ IsRaw r := by
  constructor
  · rintro h before after rfl
    have hlast := h ('\r' :: '\n' :: before) after rfl
    cases before with
    | nil => simp at hlast
    | cons c q => rwa [List.getLast?_cons_cons, List.getLast?_cons_cons] at hlast
  · intro h before after heq
    rcases before with _ | ⟨c, _ | ⟨d, q⟩⟩
    · simp at heq
    · rw [← (List.cons.inj heq).1]
      rfl
    · obtain ⟨-, heq⟩ := List.cons.inj heq
      obtain ⟨rfl, rfl⟩ := List.cons.inj heq
      cases q with
      | nil => exact absurd (h [] after rfl) (by simp)
      | cons e q => exact h (e :: q) after rfl

theorem isRaw_cons_iff (h : ¬ ['\r', '\n'] <+: c :: r) : IsRaw (c :: r) ↔ c ≠ '\n' ∧ IsRaw r := by
  constructor
  · intro hraw
    constructor
    · rintro rfl
      exact absurd (hraw [] r rfl) (by simp)
    · rintro before after rfl
      have hlast := hraw (c :: before) after rfl
      cases before with
      | nil =>
        rw [List.getLast?_singleton, Option.some_inj] at hlast
        exact absurd ⟨after, by rw [hlast]; rfl⟩ h
      | cons d q => rwa [List.getLast?_cons_cons] at hlast
  · rintro ⟨hc, hraw⟩ before after heq
    cases before with
    | nil => exact absurd (List.cons.inj heq).1 hc
    | cons d q =>
      obtain ⟨rfl, rfl⟩ := List.cons.inj heq
      have hlast := hraw q after rfl
      cases q with
      | nil => cases hlast
      | cons e q => rwa [List.getLast?_cons_cons]

theorem isRaw_parted (t : List Char) : IsRaw (parted t) := by
  induction t with
  | nil => rw [parted, replace_nil]; exact isRaw_nil
  | cons c r ih =>
    by_cases hc : c = '\n'
    · rw [hc, parted_lineFeed, isRaw_lineEnd_iff]
      exact ih
    · rw [parted_cons hc, isRaw_cons_iff (not_prefix_parted c r)]
      exact ⟨hc, ih⟩

theorem not_prefix_of_forall (h : ∀ q, c = '\r' → r = '\n' :: q → False) :
    ¬ ['\r', '\n'] <+: c :: r := by
  rintro ⟨q, hq⟩
  obtain ⟨hc, hr⟩ := List.cons.inj hq
  exact h q hc.symm hr.symm

theorem crlf_eq (t : List Char) : crlf t = parted (joined t) := by
  fun_induction crlf t with
  | case1 => simp only [joined, parted, replace_nil]
  | case2 r ih => rw [joined_lineEnd, parted_lineFeed, ih]
  | case3 r ih => rw [joined_cons (by simp), parted_lineFeed, ih]
  | case4 c r hlineEnd hlineFeed ih =>
    rw [joined_cons (not_prefix_of_forall hlineEnd), parted_cons hlineFeed, ih]

theorem isRaw_crlf (t : List Char) : IsRaw (crlf t) := by
  rw [crlf_eq]
  exact isRaw_parted (joined t)

theorem joined_crlf (t : List Char) : joined (crlf t) = joined t := by
  rw [crlf_eq, joined_parted]

theorem crlf_eq_self (h : IsRaw t) : crlf t = t := by
  fun_induction crlf t with
  | case1 => rfl
  | case2 r ih => rw [ih (isRaw_lineEnd_iff.mp h)]
  | case3 r ih =>
    exact absurd (h [] r rfl) (by simp)
  | case4 c r hlineEnd hlineFeed ih =>
    rw [ih ((isRaw_cons_iff (not_prefix_of_forall hlineEnd)).mp h).2]

/-- What is left of a text without the carriage returns of its line ends determines what is shown of
it. -/
theorem eq_crlf_iff : s = crlf t ↔ IsRaw s ∧ joined s = joined t := by
  constructor
  · rintro rfl
    exact ⟨isRaw_crlf t, joined_crlf t⟩
  · rintro ⟨hraw, hjoined⟩
    calc s = parted (joined s) := by rw [← crlf_eq, crlf_eq_self hraw]
      _ = crlf t := by rw [hjoined, crlf_eq]

example : crlf ['a', '\r', '\r', '\n', '\n'] = ['a', '\r', '\r', '\n', '\r', '\n'] := rfl

theorem crlf_append_lineEnd (t : List Char) :
    crlf t ++ ['\r', '\n'] = parted (joined t ++ ['\n']) := by
  rw [parted_append, ← crlf_eq, parted_lineFeed, parted, replace_nil]

end Text

open Text

theorem LogRecord.toList_terminalText (r : LogRecord) (named : Bool) :
    (r.terminalText named).toList = crlf (r.plainText named).toList ++ ['\r', '\n'] := by
  rw [terminalText, String.toList_append, rawText, String.toList_ofList]
  rfl

/-- A text for the terminal is the one text that has a carriage return before every line feed and
differs in nothing else, which is what the two replacements one after the other make of it. It is
not changed any more, and a record ends in a line end of its own. -/
theorem rawText_lineEnds (text : String) :
    (∀ raw, raw = rawText text ↔ IsRaw raw.toList ∧ joined raw.toList = joined text.toList) ∧
      (rawText text).toList = parted (joined text.toList) ∧
      rawText (rawText text) = rawText text ∧
      ∀ (r : LogRecord) (named : Bool), IsRaw (r.terminalText named).toList ∧
        ['\r', '\n'] <:+ (r.terminalText named).toList ∧
        joined (r.terminalText named).toList = joined (r.plainText named).toList ++ ['\n'] := by
  refine ⟨fun raw => ?_, ?_, ?_, fun r named => ?_⟩
  · rw [← eq_crlf_iff, rawText, ← String.toList_inj, String.toList_ofList]
  · rw [rawText, String.toList_ofList, crlf_eq]
  · rw [rawText, rawText, String.toList_ofList, crlf_eq_self (isRaw_crlf _)]
  · rw [r.toList_terminalText]
    refine ⟨?_, List.suffix_append _ _, ?_⟩
    · rw [crlf_append_lineEnd]
      exact isRaw_parted _
    · rw [crlf_append_lineEnd, joined_parted]

end Tether
