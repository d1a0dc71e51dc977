import Tether.Text.Blank
import Mathlib.Data.List.TakeWhile

/-! # Words and lines of a text

The words of a text are not changed by the blanks around it, and between two of them there is a
blank. Every line stands somewhere in its text.
-/

namespace Tether.Text

variable {p : Char → Bool} {c b : Char} {cs w line : List Char}

/-! ### Pieces -/

theorem pieces_ne_nil (p : Char → Bool) (cs : List Char) : pieces p cs ≠ [] := by
  induction cs with
  | nil => exact List.cons_ne_nil _ _
  | cons c r ih =>
    rw [pieces]
    split
    · exact List.cons_ne_nil _ _
    · cases h : pieces p r with
      | nil => exact absurd h ih
      | cons w ws => exact List.cons_ne_nil _ _

theorem pieces_append (hc : p c) (cs ds : List Char) :
    pieces p (cs ++ c :: ds) = pieces p cs ++ pieces p ds := by
  induction cs with
  | nil =>
    rw [List.nil_append, pieces.eq_def]
    simp only [hc, if_true]
    rfl
  | cons d r ih =>
    rw [List.cons_append, pieces, pieces, ih]
    split
    · rfl
    · cases h : pieces p r with
      | nil => exact absurd h (pieces_ne_nil p r)
      | cons w ws => rfl

theorem exists_of_pieces_eq_cons {v : List Char} {ws : List (List Char)}
    (h : pieces p cs = w :: v :: ws) :
    ∃ c r, cs = w ++ c :: r ∧ p c ∧ pieces p r = v :: ws := by
  induction cs generalizing w with
  | nil => cases h
  | cons c r ih =>
    rw [pieces] at h
    split at h
    case isTrue hc =>
      obtain ⟨rfl, hr⟩ := List.cons.inj h
      exact ⟨c, r, rfl, hc, hr⟩
    case isFalse =>
      cases hr : pieces p r with
      | nil => exact absurd hr (pieces_ne_nil p r)
      | cons w' ws' =>
        rw [hr] at h
        obtain ⟨rfl, rfl⟩ := List.cons.inj h
        obtain ⟨d, s, rfl, hd, hs⟩ := ih hr
        exact ⟨d, s, rfl, hd, hs⟩

theorem exists_of_pieces_eq_append {v : List Char} {us ws : List (List Char)}
    (h : pieces p cs = us ++ w :: v :: ws) : ∃ q c r, cs = q ++ w ++ c :: r ∧ p c := by
  induction us generalizing cs with
  | nil =>
    obtain ⟨c, r, rfl, hc, -⟩ := exists_of_pieces_eq_cons h
    exact ⟨[], c, r, rfl, hc⟩
  | cons u us ih =>
    obtain ⟨v', ws', hrest⟩ : ∃ v' ws', us ++ w :: v :: ws = v' :: ws' :=
      List.exists_cons_of_ne_nil (by simp)
    rw [List.cons_append, hrest] at h
    obtain ⟨c, r, rfl, -, hr⟩ := exists_of_pieces_eq_cons h
    obtain ⟨q, d, s, rfl, hd⟩ := ih (hr.trans hrest.symm)
    exact ⟨u ++ c :: q, d, s, by simp, hd⟩

/-! ### Words -/

theorem words_append (hb : isBlank b) (cs ds : List Char) :
    words (cs ++ b :: ds) = words cs ++ words ds := by
  rw [words, words, words, pieces_append hb, List.filter_append]

theorem words_nil : words [] = [] := rfl

theorem words_dropWhile (cs : List Char) : words (cs.dropWhile isBlank) = words cs := by
  induction cs with
  | nil => rfl
  | cons c r ih =>
    rw [List.dropWhile_cons]
    split
    case isTrue hc => rw [ih, ← List.nil_append (c :: r), words_append hc, words_nil, List.nil_append]
    case isFalse => rfl

theorem words_append_blanks {ds : List Char} (h : ∀ c ∈ ds, isBlank c) (cs : List Char) :
    words (cs ++ ds) = words cs := by
  cases ds with
  | nil => rw [List.append_nil]
  | cons b r =>
    rw [words_append (h b List.mem_cons_self), ← words_dropWhile r,
      List.dropWhile_eq_nil_iff.mpr fun c hc => h c (List.mem_cons_of_mem b hc), words_nil,
      List.append_nil]

theorem words_trim (cs : List Char) : words (trim cs) = words cs := by
  have hcut : cs.dropWhile isBlank =
      trim cs ++ ((cs.dropWhile isBlank).reverse.takeWhile isBlank).reverse := by
    rw [trim, trimBy, ← List.reverse_append, List.takeWhile_append_dropWhile, List.reverse_reverse]
  rw [← words_dropWhile cs, hcut, words_append_blanks]
  intro c hc
  exact List.mem_takeWhile_imp (List.mem_reverse.mp hc)

theorem exists_blank_of_words {v : List Char} {us ws : List (List Char)}
    (h : words line = us ++ w :: v :: ws) : ∃ q b r, line = q ++ w ++ b :: r ∧ isBlank b := by
  obtain ⟨as, bs, hpieces, -, hw⟩ := List.filter_eq_append_iff.mp h
  obtain ⟨cs, ds, rfl, -, -, hv⟩ := List.filter_eq_cons_iff.mp hw
  obtain ⟨x, xs, rfl⟩ : ∃ x xs, ds = x :: xs := by
    apply List.exists_cons_of_ne_nil
    rintro rfl
    cases hv
  rw [← List.append_assoc] at hpieces
  exact exists_of_pieces_eq_append hpieces

/-! ### Lines -/

theorem exists_of_lines_eq_cons {ls : List (List Char)} (h : lines cs = line :: ls) :
    ∃ e r, cs = line ++ e ++ r ∧ lines r = ls := by
  fun_induction lines cs generalizing line ls with
  | case1 => cases h
  | case2 r =>
    cases h
    exact ⟨['\r', '\n'], r, rfl, rfl⟩
  | case3 c r hnot hc =>
    cases h
    exact ⟨[c], r, rfl, rfl⟩
  | case4 c r hnot hc ih =>
    cases hr : lines r with
    | nil =>
      rw [hr] at h
      cases h
      exact ⟨[], r, rfl, hr⟩
    | cons l ls' =>
      rw [hr] at h
      cases h
      obtain ⟨e, s, rfl, hs⟩ := ih hr
      exact ⟨e, s, rfl, hs⟩

theorem exists_of_lines_eq_append {before after : List (List Char)}
    (h : lines cs = before ++ line :: after) : ∃ q r, cs = q ++ line ++ r := by
  induction before generalizing cs with
  | nil =>
    obtain ⟨e, r, rfl, -⟩ := exists_of_lines_eq_cons h
    exact ⟨[], e ++ r, by simp⟩
  | cons l before ih =>
    obtain ⟨e, r, rfl, hr⟩ := exists_of_lines_eq_cons h
    obtain ⟨q, s, rfl⟩ := ih hr
    exact ⟨l ++ e ++ q, s, by simp⟩

end Tether.Text
