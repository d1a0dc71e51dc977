import Tether.Keys.Load

/-! # What keeps a key from being loaded

Whatever is found in the file of a key, and where no file is found, the key is blamed. Before that
a path can lead nowhere: a tilde may stand for no home directory, and the system may refuse
to look at what the path names. These failures are of their own kinds.
-/

namespace Tether.Keys

variable {fs : Files} {env : Environment} {p q : Path} {passphrase : Option String} {f : Failure}

/-- There is a key, or the failure says so of the key. -/
def Blames (r : Except Failure PublicKey) : Prop := ∀ f, r = .error f → ∃ k, f = .key k

theorem Blames.ok (key : PublicKey) : Blames (.ok key) := by
  rintro f ⟨⟩

theorem Blames.error (k : KeyFailure) : Blames (.error (.key k)) := by
  rintro f ⟨⟩
  exact ⟨k, rfl⟩

theorem not_blames (h : ∀ k, f ≠ .key k) : ¬ Blames (.error f) := by
  intro hblames
  obtain ⟨k, hk⟩ := hblames f rfl
  exact h k hk

/-! ### Home directories -/

/-- A relative path begins with a tilde that stands for no directory. -/
def IsHomeless (fs : Files) (env : Environment) (p : Path) : Prop :=
  p.isAbsolute = false ∧ ∃ c r, p.parts = c :: r ∧ c.toList.head? = some '~' ∧
    ('\x00' ∈ c.toList ∨ ∀ home, homeOf fs env c = some home → home.toList.head? = some '~')

inductive IsHomeFault : Failure → Prop
  | user : IsHomeFault .unknownUser
  | nul : IsHomeFault .pathWithNul

theorem IsHomeFault.ne_key (h : IsHomeFault f) (k : KeyFailure) : f ≠ .key k := by
  cases h <;> exact Failure.noConfusion

theorem isHomeless_of_parts {c : String} {r : List String} (habsolute : p.isAbsolute = false)
    (hparts : p.parts = c :: r) : IsHomeless fs env p ↔ c.toList.head? = some '~' ∧
      ('\x00' ∈ c.toList ∨
        ∀ home, homeOf fs env c = some home → home.toList.head? = some '~') := by
  simp [IsHomeless, habsolute, hparts]

theorem expandHome_cases (fs : Files) (env : Environment) (p : Path) :
    IsHomeless fs env p ∧ (∃ f, IsHomeFault f ∧ expandHome fs env p = .error f) ∨
      ¬ IsHomeless fs env p ∧ ∃ q, expandHome fs env p = .ok q := by
  unfold expandHome
  split
  case h_2 hrelative =>
    refine .inr ⟨?_, p, rfl⟩
    rintro ⟨habsolute, c, r, hparts, -⟩
    exact hrelative c r habsolute hparts
  case h_1 c r habsolute hparts =>
  rw [isHomeless_of_parts habsolute hparts]
  split
  case isTrue htilde => exact .inr ⟨fun h => htilde h.1, p, rfl⟩
  case isFalse htilde =>
  rw [Decidable.not_not] at htilde
  split
  case isTrue hnul => exact .inl ⟨⟨htilde, .inl (by simpa using hnul)⟩, _, .nul, rfl⟩
  case isFalse hnul =>
  split
  case h_1 hhome =>
    refine .inl ⟨⟨htilde, .inr fun home hsome => ?_⟩, _, .user, rfl⟩
    cases hhome.symm.trans hsome
  case h_2 home hhome =>
  split
  case isTrue hloop =>
    refine .inl ⟨⟨htilde, .inr fun home' hsome => ?_⟩, _, .user, rfl⟩
    obtain rfl := Option.some.inj (hhome.symm.trans hsome)
    exact hloop
  case isFalse hloop =>
    refine .inr ⟨?_, _, rfl⟩
    rintro ⟨-, hmem | hall⟩
    · exact hnul (by simpa using hmem)
    · exact hloop (hall home hhome)

theorem blames_expandHome_bind {k : Path → Except Failure PublicKey} :
    Blames (expandHome fs env p >>= k) ↔
      ¬ IsHomeless fs env p ∧ ∀ q, expandHome fs env p = .ok q → Blames (k q) := by
  rcases expandHome_cases fs env p with ⟨hhomeless, f, hf, hexpand⟩ | ⟨hhome, q, hexpand⟩
  · have hnot : ¬ Blames (expandHome fs env p >>= k) := by
      rw [hexpand]
      exact not_blames hf.ne_key
    exact iff_of_false hnot fun h => h.1 hhomeless
  · rw [hexpand]
    constructor
    · intro hblames
      refine ⟨hhome, ?_⟩
      rintro q' ⟨⟩
      exact hblames
    · rintro ⟨-, hall⟩
      exact hall q rfl

/-! ### Files -/

/-- The system does not say what the path leads to. -/
def IsHidden (fs : Files) (p : Path) : Prop :=
  hasNul p = false ∧ (fs.node p = .tooLong ∨ fs.node p = .barred)

theorem blames_loadPrivateAt : Blames (loadPrivateAt fs q passphrase) ↔ ¬ IsHidden fs q := by
  unfold loadPrivateAt IsHidden
  dsimp only
  split
  case isTrue hnul => exact iff_of_true (.error _) fun h => by simp [hnul] at h
  case isFalse hnul =>
  split
  case h_1 hnode =>
    exact iff_of_false (not_blames fun k => Failure.noConfusion)
      (not_not_intro ⟨Bool.eq_false_iff.mpr hnul, .inl hnode⟩)
  case h_2 hnode =>
    exact iff_of_false (not_blames fun k => Failure.noConfusion)
      (not_not_intro ⟨Bool.eq_false_iff.mpr hnul, .inr hnode⟩)
  case h_3 content hnode =>
    refine iff_of_true ?_ fun h => by simp [hnode] at h
    split
    case h_1 => exact .error _
    case h_2 =>
      split
      case h_1 => exact .ok _
      case h_2 => exact .error _
      case h_3 => exact .error _
  case h_4 hlong hbarred _ =>
    exact iff_of_true (.error _) fun h => h.2.elim hlong hbarred

theorem blames_loadHostAt : Blames (loadHostAt fs q) ↔ hasNul q = false := by
  unfold loadHostAt
  dsimp only
  split
  case isTrue hnul =>
    exact iff_of_false (not_blames fun k => Failure.noConfusion) (by simp [hnul])
  case isFalse hnul =>
    refine iff_of_true ?_ (Bool.eq_false_iff.mpr hnul)
    split
    case h_1 => exact .error _
    case h_2 =>
      split
      case h_1 => exact .ok _
      case h_2 => exact .error _

theorem blames_loadPrivate : Blames (loadPrivate fs env p passphrase) ↔
    ¬ IsHomeless fs env p ∧ ∀ q, expandHome fs env p = .ok q → ¬ IsHidden fs q := by
  simp only [loadPrivate, blames_expandHome_bind, blames_loadPrivateAt]

example : loadPrivate {} [] { parts := ["~nobody", "k"] } none = .error .unknownUser := rfl

theorem blames_loadHost : Blames (loadHost fs env p) ↔
    ¬ IsHomeless fs env p ∧ ∀ q, expandHome fs env p = .ok q → hasNul q = false := by
  simp only [loadHost, blames_expandHome_bind, blames_loadHostAt]

end Tether.Keys
