import Tether.Text.Number
import Mathlib.Data.List.TakeWhile

/-! # Reading digits as a number

A text of digits is a number if each digit has a decimal value and there are not too many of
them. Then it is the number that they spell.
-/

namespace Tether.Text

variable {cs : List Char} {c : Char}

theorem isDecimal_of_isDigit (h : c.isDigit) : isDecimal c := by
  have h : 48 ≤ c.toNat ∧ c.toNat ≤ 57 := by simpa [Char.isDigit, UInt32.le_iff_toNat_le] using h
  rw [isDecimal, decimal?, if_pos (by omega), if_pos h]
  rfl

def spaces : List Nat :=
  List.range' 0x09 5 ++ [0x20, 0x85, 0xa0, 0x1680] ++ List.range' 0x2000 11 ++
    [0x2028, 0x2029, 0x202f, 0x205f, 0x3000]

theorem mem_spaces_of_isSpace (h : isSpace c) : c.toNat ∈ spaces := by
  simp only [isSpace, isBlank, Bool.and_eq_true, Bool.or_eq_true, Bool.not_eq_true',
    Bool.and_eq_false_iff, decide_eq_true_eq, decide_eq_false_iff_not, beq_iff_eq] at h
  simp only [spaces, List.mem_append, List.mem_range'_1, List.mem_cons, List.not_mem_nil, or_false]
  omega

theorem not_isSpace_of_isDigit (h : isDigit c) : isSpace c = false := by
  have hspaces : ∀ n ∈ spaces, isDigit (Char.ofNat n) = false := by decide
  cases hspace : isSpace c with
  | false => rfl
  | true =>
    have hdigit := hspaces c.toNat (mem_spaces_of_isSpace hspace)
    rw [Char.ofNat_toNat, h] at hdigit
    cases hdigit

theorem trimBy_eq_self {p : Char → Bool} (h : ∀ c ∈ cs, p c = false) : trimBy p cs = cs := by
  have hfront (ds : List Char) (hds : ∀ c ∈ ds, p c = false) : ds.dropWhile p = ds := by
    rw [List.dropWhile_eq_self_iff]
    intro hlength
    simp [hds _ (List.getElem_mem hlength)]
  rw [trimBy, hfront cs h, hfront cs.reverse fun c hc => h c (List.mem_reverse.mp hc),
    List.reverse_reverse]

theorem pieces_eq_singleton {p : Char → Bool} (h : ∀ c ∈ cs, p c = false) : pieces p cs = [cs] := by
  induction cs with
  | nil => rfl
  | cons c r ih =>
    rw [pieces, h c List.mem_cons_self, ih fun d hd => h d (List.mem_cons_of_mem c hd)]
    rfl

theorem takeWhile_congr {p q : Char → Bool} (h : ∀ c ∈ cs, p c = q c) :
    cs.takeWhile p = cs.takeWhile q := by
  induction cs with
  | nil => rfl
  | cons c r ih =>
    rw [List.takeWhile_cons, List.takeWhile_cons, h c List.mem_cons_self,
      ih fun d hd => h d (List.mem_cons_of_mem c hd)]

theorem signed_of_isDigit (h : ∀ c ∈ cs, isDigit c) : signed cs = (false, cs) := by
  unfold signed
  split
  · exact absurd (h '-' List.mem_cons_self) (by decide)
  · exact absurd (h '+' List.mem_cons_self) (by decide)
  · rfl

theorem numeral_of_isDigit (h : ∀ c ∈ cs, isDigit c) :
    numeral cs = if cs.takeWhile isDecimal = [] then none
      else some (cs.takeWhile isDecimal, cs.drop (cs.takeWhile isDecimal).length) := by
  have hunderscore (c : Char) (hc : c ∈ cs) : decide (c = '_') = false := by
    rw [decide_eq_false_iff_not]
    rintro rfl
    exact absurd (h '_' hc) (by decide)
  have hrun : cs.takeWhile (fun c => isDecimal c || c = '_') = cs.takeWhile isDecimal :=
    takeWhile_congr fun c hc => by rw [hunderscore c hc, Bool.or_false]
  have hpieces : pieces (· = '_') (cs.takeWhile isDecimal) = [cs.takeWhile isDecimal] :=
    pieces_eq_singleton fun c hc => hunderscore c (List.takeWhile_subset _ hc)
  rw [numeral, hrun, hpieces]
  by_cases hnone : cs.takeWhile isDecimal = [] <;> simp [hnone]

structure IsNumeral (s : String) : Prop where
  nonempty : s.toList ≠ []
  decimal : s.toList.all isDecimal
  short : s.toList.length ≤ digitLimit

variable {s : String}

theorem readInt_eq_of_isDigit (h : ∀ c ∈ s.toList, isDigit c) :
    readInt s = match numeral s.toList with
      | none => .error (.malformed s)
      | some (digits, rest) =>
        if digits.length > digitLimit then .error (.tooLong digits.length)
        else if rest ≠ [] then .error (.malformed s)
        else .ok (ofDecimals digits) := by
  rw [readInt, trimBy_eq_self fun c hc => not_isSpace_of_isDigit (h c hc), signed_of_isDigit h]
  rfl

theorem readInt_of_isNumeral (h : IsNumeral s) : readInt s = .ok (ofDecimals s.toList) := by
  have hdecimal := List.all_eq_true.mp h.decimal
  have hdigit (c : Char) (hc : c ∈ s.toList) : isDigit c := by
    rw [isDigit, hdecimal c hc, Bool.true_or]
  have hrun : s.toList.takeWhile isDecimal = s.toList := List.takeWhile_eq_self_iff.mpr hdecimal
  rw [readInt_eq_of_isDigit hdigit, numeral_of_isDigit hdigit, hrun, if_neg h.nonempty]
  simp [Nat.not_lt_of_le h.short]

theorem readInt_of_not_isNumeral (hne : s.toList ≠ []) (h : ∀ c ∈ s.toList, isDigit c)
    (hnot : ¬ IsNumeral s) : ∃ f, readInt s = .error f := by
  rw [readInt_eq_of_isDigit h, numeral_of_isDigit h]
  by_cases hnone : s.toList.takeWhile isDecimal = []
  · exact ⟨.malformed s, by rw [if_pos hnone]⟩
  · rw [if_neg hnone]
    dsimp only
    by_cases hlength : (s.toList.takeWhile isDecimal).length > digitLimit
    · exact ⟨_, if_pos hlength⟩
    · -- A digit without a value is left, for otherwise these digits would be a numeral.
      have hrest : s.toList.drop (s.toList.takeWhile isDecimal).length ≠ [] := by
        intro hdrop
        have hrun : s.toList.takeWhile isDecimal = s.toList :=
          (List.takeWhile_prefix _).eq_of_length_le (List.drop_eq_nil_iff.mp hdrop)
        rw [hrun] at hlength
        exact hnot ⟨hne, List.all_eq_true.mpr (List.takeWhile_eq_self_iff.mp hrun),
          Nat.le_of_not_lt hlength⟩
      exact ⟨.malformed s, by rw [if_neg hlength, if_pos hrest]⟩

end Tether.Text
