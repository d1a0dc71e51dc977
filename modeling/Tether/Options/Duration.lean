import Tether.Text.Blank
import Tether.Text.Digit
import Tether.Text.Quoted

/-! # Durations

A duration is written as an optional sign and then either a lone `0` or terms
such as `1.5s` or `300ms`, one after the other. Its value is the sign times the
sum of the terms, in any arithmetic.
-/

namespace Tether

inductive TimeUnit
  | ns | us | ms | s | m | h
  deriving DecidableEq, Repr

namespace TimeUnit

/-- Reads the unit at the head of a text; `ms` is milliseconds, not minutes. -/
def read? : List Char → Option (TimeUnit × List Char)
  | 'n' :: 's' :: r => some (.ns, r)
  | 'u' :: 's' :: r => some (.us, r)
  | '\u00b5' :: 's' :: r => some (.us, r)
  | 'm' :: 's' :: r => some (.ms, r)
  | 's' :: r => some (.s, r)
  | 'm' :: r => some (.m, r)
  | 'h' :: r => some (.h, r)
  | _ => none

def seconds {α : Type} [OfScientific α] : TimeUnit → α
  | .ns => 1e-9
  | .us => 1e-6
  | .ms => 1e-3
  | .s => 1.0
  | .m => 60.0
  | .h => 3600.0

theorem length_of_read? {cs r : List Char} {u : TimeUnit} (h : read? cs = some (u, r)) :
    r.length < cs.length := by
  unfold read? at h
  split at h <;> simp at h <;> obtain ⟨_, rfl⟩ := h <;>
    simp only [List.length_cons] <;> omega

end TimeUnit

namespace Duration

/-- A decimal number, `mantissa / 10 ^ places`, and a unit. -/
structure Term where
  mantissa : Nat
  places : Nat
  unit : TimeUnit
  deriving DecidableEq, Repr

def Term.seconds {α : Type} [OfScientific α] [Mul α] (t : Term) : α :=
  OfScientific.ofScientific t.mantissa true t.places * t.unit.seconds

end Duration

/-- A signed sum of terms. -/
structure Duration where
  negative : Bool := false
  terms : List Duration.Term := []
  deriving DecidableEq, Repr

namespace Duration

/-- The seconds in a duration, the terms being added in their order. -/
def seconds {α : Type} [OfScientific α] [Add α] [Mul α] [Neg α] (d : Duration) : α :=
  (if d.negative then -1.0 else 1.0) * d.terms.foldl (fun total t => total + t.seconds) 0.0

/-- Reads the unsigned decimal at the head of a text: digits, with a point and more
digits or without, or a point and digits. -/
def decimal? (cs : List Char) : Option (List Char × List Char × List Char) :=
  match cs.dropWhile Text.isDecimal with
  | '.' :: r =>
    if cs.takeWhile Text.isDecimal = [] ∧ r.takeWhile Text.isDecimal = [] then none
    else some (cs.takeWhile Text.isDecimal, r.takeWhile Text.isDecimal,
      r.dropWhile Text.isDecimal)
  | r =>
    if cs.takeWhile Text.isDecimal = [] then none
    else some (cs.takeWhile Text.isDecimal, [], r)

def term? (cs : List Char) : Option (Term × List Char) :=
  match decimal? cs with
  | none => none
  | some (whole, fraction, r) =>
    match TimeUnit.read? r with
    | none => none
    | some (unit, rest) => some (⟨Text.ofDecimals (whole ++ fraction), fraction.length, unit⟩, rest)

theorem length_dropWhile_le (p : Char → Bool) (cs : List Char) :
    (cs.dropWhile p).length ≤ cs.length :=
  (List.dropWhile_suffix p).length_le

theorem length_of_decimal? {cs w f r : List Char} (h : decimal? cs = some (w, f, r)) :
    r.length ≤ cs.length := by
  have hd := length_dropWhile_le Text.isDecimal cs
  unfold decimal? at h
  split at h
  · rename_i r' heq
    have := length_dropWhile_le Text.isDecimal r'
    split at h
    · simp at h
    · simp at h
      obtain ⟨_, _, rfl⟩ := h
      rw [heq] at hd
      simp at hd
      omega
  · split at h
    · simp at h
    · simp at h
      obtain ⟨_, _, rfl⟩ := h
      exact hd

theorem length_of_term? {cs r : List Char} {t : Term} (h : term? cs = some (t, r)) :
    r.length < cs.length := by
  unfold term? at h
  split at h
  · simp at h
  · rename_i r' hd
    split at h
    · simp at h
    · rename_i hu
      simp at h
      obtain ⟨_, rfl⟩ := h
      exact Nat.lt_of_lt_of_le (TimeUnit.length_of_read? hu) (length_of_decimal? hd)

def terms? (cs : List Char) : Option (List Term) :=
  match _h : term? cs with
  | none => none
  | some (t, r) => if r = [] then some [t] else (terms? r).map (t :: ·)
termination_by cs.length
decreasing_by exact length_of_term? _h

/-- Reads a duration without blanks around it. -/
def ofChars? (cs : List Char) : Option Duration :=
  let (negative, body) : Bool × List Char := match cs with
    | '-' :: r => (true, r)
    | '+' :: r => (false, r)
    | r => (false, r)
  if body = ['0'] then some {} else (terms? body).map (⟨negative, ·⟩)

def read? (s : String) : Option Duration := ofChars? (Text.trim s.toList)

def faultText (s : String) : String := s!"invalid duration {Text.quoted s}"

end Duration

end Tether
