import Tether.Proofs.Text.Number
import Tether.Proofs.Text.Words
import Mathlib.Data.List.Basic

/-! # The last line and the last word of a text

The words of a text are those of its lines, so that its last word is the last word of the last line
that is not blank. It is that whole line only if there is no blank in it.
-/

namespace Tether.Text

variable {p : Char → Bool} {c : Char} {cs w line : List Char}

/-! ### Words -/

theorem mem_pieces (h : w ∈ pieces p cs) (hc : c ∈ w) : p c = false := by
  induction cs generalizing w with
  | nil =>
    obtain rfl := List.mem_singleton.mp h
    cases hc
  | cons d r ih =>
    rw [pieces] at h
    split at h
    case isTrue =>
      rcases List.mem_cons.mp h with rfl | h
      · cases hc
      · exact ih h hc
    case isFalse hd =>
      obtain ⟨v, vs, hr⟩ := List.exists_cons_of_ne_nil (pieces_ne_nil p r)
      rw [hr, ontoFirst] at h
      rw [hr] at ih
      rcases List.mem_cons.mp h with rfl | h
      · rcases List.mem_cons.mp hc with rfl | hc
        · exact Bool.eq_false_iff.mpr hd
        · exact ih List.mem_cons_self hc
      · exact ih (List.mem_cons_of_mem v h) hc

theorem isBlank_of_mem_words (h : w ∈ words cs) (hc : c ∈ w) : isBlank c = false :=
  mem_pieces (List.mem_of_mem_filter h) hc

theorem ne_nil_of_mem_words (h : w ∈ words cs) : w ≠ [] := by
  simpa using List.of_mem_filter h

theorem words_eq_nil_iff : words cs = [] ↔ ∀ c ∈ cs, isBlank c := by
  constructor
  · intro h
    induction cs with
    | nil => simp
    | cons c r ih =>
      by_cases hc : isBlank c
      · rw [← List.nil_append (c :: r), words_append hc, words_nil, List.nil_append] at h
        exact List.forall_mem_cons.mpr ⟨hc, ih h⟩
      · obtain ⟨w, ws, hr⟩ := List.exists_cons_of_ne_nil (pieces_ne_nil isBlank r)
        rw [words, pieces, if_neg hc, hr, ontoFirst, List.filter_cons_of_pos (by simp)] at h
        cases h
  · intro h
    rw [← List.nil_append cs, words_append_blanks h, words_nil]

theorem trim_eq_nil_iff : trim cs = [] ↔ ∀ c ∈ cs, isBlank c := by
  constructor
  · intro h
    rw [← words_eq_nil_iff, ← words_trim, h, words_nil]
  · intro h
    rw [trim, trimBy, List.dropWhile_eq_nil_iff.mpr h]
    rfl

theorem words_eq_singleton (h : ∀ c ∈ cs, isBlank c = false) (hcs : cs ≠ []) : words cs = [cs] := by
  rw [words, pieces_eq_singleton h, List.filter_cons_of_pos (by simpa using hcs), List.filter_nil]

/-! ### Lines -/

theorem isBlank_of_isLineEnd (h : isLineEnd c) : isBlank c := by
  simp only [isLineEnd, isBlank, Bool.or_eq_true, Bool.and_eq_true, decide_eq_true_eq,
    beq_iff_eq] at h ⊢
  omega

theorem flatMap_words (ls : List (List Char)) :
    ls.flatMap words = words (ls.headD []) ++ ls.tail.flatMap words := by
  cases ls with
  | nil => rfl
  | cons line rest => rw [List.flatMap_cons, List.headD_cons, List.tail_cons]

theorem words_append_lines (before cs : List Char) :
    words (before ++ cs) =
      words (before ++ (lines cs).headD []) ++ (lines cs).tail.flatMap words := by
  fun_induction lines cs generalizing before with
  | case1 => simp
  | case2 r ih =>
    have hcut : words ('\n' :: r) = words r := by
      rw [← List.nil_append ('\n' :: r), words_append (by decide), words_nil, List.nil_append]
    have hrest := ih []
    rw [List.nil_append, List.nil_append, ← flatMap_words] at hrest
    rw [words_append (by decide), hcut, hrest, List.headD_cons, List.append_nil, List.tail_cons]
  | case3 c r hnot hc ih =>
    have hrest := ih []
    rw [List.nil_append, List.nil_append, ← flatMap_words] at hrest
    rw [words_append (isBlank_of_isLineEnd hc), hrest, List.headD_cons, List.append_nil,
      List.tail_cons]
  | case4 c r hnot hc ih =>
    have h := ih (before ++ [c])
    cases hlines : lines r with
    | nil => simpa [hlines, ontoFirst] using h
    | cons line rest => simpa [hlines, ontoFirst] using h

theorem words_eq_flatMap (cs : List Char) : words cs = (lines cs).flatMap words := by
  have h := words_append_lines [] cs
  rwa [List.nil_append, List.nil_append, ← flatMap_words] at h

/-- The last line that is not blank, without the blanks around it. -/
def lastLine? (cs : List Char) : Option (List Char) :=
  (lines cs).reverse.findSome? fun line => if trim line = [] then none else some (trim line)

theorem lastLine?_mem (h : lastLine? cs = some line) :
    line ≠ [] ∧ ∃ l ∈ lines cs, line = trim l := by
  obtain ⟨l, hl, htrim⟩ := List.exists_of_findSome?_eq_some h
  split at htrim
  case isTrue => cases htrim
  case isFalse hne =>
    cases htrim
    exact ⟨hne, l, List.mem_reverse.mp hl, rfl⟩

theorem getLast?_words (cs : List Char) :
    (words cs).getLast? = (lastLine? cs).bind fun line => (words line).getLast? := by
  rw [words_eq_flatMap, List.getLast?_flatMap, lastLine?]
  induction (lines cs).reverse with
  | nil => rfl
  | cons line rest ih =>
    rw [List.findSome?_cons, List.findSome?_cons]
    by_cases hblank : trim line = []
    · rw [if_pos hblank, words_eq_nil_iff.mpr (trim_eq_nil_iff.mp hblank)]
      exact ih
    · have hwords := words_trim line
      rw [if_neg hblank, Option.bind_some, hwords]
      cases hlast : (words line).getLast? with
      | none =>
        rw [List.getLast?_eq_none_iff, words_eq_nil_iff, ← trim_eq_nil_iff] at hlast
        exact absurd hlast hblank
      | some word => rfl

theorem getLast?_words_eq_self_iff (hcs : cs ≠ []) :
    (words cs).getLast? = some cs ↔ ∀ c ∈ cs, isBlank c = false := by
  constructor
  · intro h c hc
    exact isBlank_of_mem_words (List.mem_of_getLast? h) hc
  · intro h
    rw [words_eq_singleton h hcs, List.getLast?_singleton]

end Tether.Text
