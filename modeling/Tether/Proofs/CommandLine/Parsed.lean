import Tether.CommandLine.Arguments

/-! # What a command line comes to

However a command line is spelt, the arguments that are read from it name a network, do not ask
for both debugging and dumping, and leave no switch without a value.
-/

namespace Tether.CommandLine

namespace Arguments

/-- What acting on words keeps true. -/
structure IsParsed (a : Arguments) : Prop where
  network : ∃ n, Network.ofString? a.network = some n
  exclusive : (a.debug && a.dump) = false
  emptied : ∀ f ∈ a.emptied, f.isSwitch = false

variable {a b : Arguments} {f : Flag} {v : String}

theorem isParsed_initial : IsParsed {} := ⟨⟨.tcp, rfl⟩, rfl, by simp⟩

namespace IsParsed

theorem switch (h : a.IsParsed) (hb : a.switch f = .ok b) : b.IsParsed := by
  cases f with
  | help | version => cases hb
  | debug | dump =>
    rw [Arguments.switch] at hb
    split at hb
    case isTrue => cases hb
    case isFalse hother =>
      cases hb
      exact { h with exclusive := by simpa using hother }
  | _ =>
    cases hb
    exact { h with }

theorem foldlM_switch {fs : List Flag} (h : a.IsParsed)
    (hb : fs.foldlM Arguments.switch a = .ok b) : b.IsParsed := by
  induction fs generalizing a with
  | nil =>
    cases hb
    exact h
  | cons f fs ih =>
    rw [List.foldlM_cons] at hb
    cases hf : a.switch f with
    | error e =>
      rw [hf] at hb
      cases hb
    | ok c =>
      rw [hf] at hb
      exact ih (h.switch hf) hb

theorem of_integer {g : Int → Arguments} (hg : ∀ n, (g n).IsParsed)
    (hb : (integer f v).map g = .ok b) : b.IsParsed := by
  cases hn : integer f v with
  | error e =>
    rw [hn] at hb
    cases hb
  | ok n =>
    rw [hn] at hb
    cases hb
    exact hg n

theorem put (h : a.IsParsed) (hb : a.put f v = .ok b) : b.IsParsed := by
  cases f with
  | msize | sp | port9p =>
    rw [Arguments.put] at hb
    refine of_integer (fun n => ?_) hb
    exact { h with }
  | network =>
    rw [Arguments.put] at hb
    split at hb
    case isTrue hv =>
      cases hb
      exact { h with network := Option.isSome_iff_exists.mp hv }
    case isFalse => cases hb
  | _ =>
    cases hb
    exact { h with }

theorem set (h : a.IsParsed) (hf : f.isSwitch = false) (hb : a.set f v = .ok b) :
    b.IsParsed := by
  have hothers : ∀ g ∈ a.emptied.filter (· ≠ f), g.isSwitch = false :=
    fun g hg => h.emptied g ((List.mem_filter.mp hg).1)
  rw [Arguments.set] at hb
  split at hb
  case isTrue =>
    cases hb
    exact { h with emptied := List.forall_mem_cons.mpr ⟨hf, hothers⟩ }
  case isFalse =>
    have hdropped : IsParsed { a with emptied := a.emptied.filter (· ≠ f) } :=
      { h with emptied := hothers }
    exact hdropped.put hb

theorem positionals (h : a.IsParsed) (ws : List Word) : (a.positionals ws).IsParsed := by
  fun_cases Arguments.positionals a ws <;> exact { h with }

theorem consume {strays strays' : List String} {ws : List Word} (h : a.IsParsed)
    (hb : a.consume strays ws = .ok (b, strays')) : b.IsParsed := by
  fun_induction Arguments.consume a strays ws
  case case1 =>
    cases hb
    exact h
  case case2 ih => exact ih h hb
  case case5 hletters ih => exact ih (h.foldlM_switch hletters) hb
  case case7 hf _ hvalue ih => exact ih (h.set (Bool.eq_false_iff.mpr hf) hvalue) hb
  case case9 hswitch ih => exact ih (h.switch hswitch) hb
  case case11 hf _ _ _ hvalue ih => exact ih (h.set (Bool.eq_false_iff.mpr hf) hvalue) hb
  case case13 =>
    cases hb
    exact h.positionals _
  case case3 | case4 | case6 | case8 | case10 | case12 => cases hb

end IsParsed

theorem isParsed_of_parse {argv : List String} (h : parse argv = .ok a) : a.IsParsed := by
  rw [parse] at h
  split at h
  case h_1 => cases h
  case h_2 ws _ =>
    split at h
    case h_1 => cases h
    case h_2 b hconsume =>
      cases h
      exact isParsed_initial.consume hconsume
    case h_3 => cases h

end Arguments

end Tether.CommandLine
