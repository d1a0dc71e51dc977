import Tether.Proofs.Act.Exec

/-! # Two runs side by side

One action leads from one relation between surroundings to another if two runs
that start in the first end in the second, with related results. A failure is
related to itself only.
-/

namespace Tether.Act

variable {τ α β γ δ : Type}

def Ends (S : α → β → Prop) : Except Failure α → Except Failure β → Prop
  | .ok x, .ok y => S x y
  | .error f, .error g => f = g
  | _, _ => False

theorem ends_eq_iff {r r' : Except Failure α} : Ends Eq r r' ↔ r = r' := by
  cases r <;> cases r' <;> simp [Ends]

theorem Ends.mono {S S' : α → β → Prop} (hS : ∀ x y, S x y → S' x y) {r : Except Failure α}
    {r' : Except Failure β} (h : Ends S r r') : Ends S' r r' := by
  cases r <;> cases r'
  · exact h
  · exact h
  · exact h
  · exact hS _ _ h

/-- From surroundings in the first relation, related results and surroundings in the second. -/
def Leads (R R' : Surroundings τ → Surroundings τ → Prop) (S : α → β → Prop) (a : Act τ α)
    (b : Act τ β) : Prop :=
  ∀ s t, R s t → Ends S (exec a s).1 (exec b t).1 ∧ R' (exec a s).2 (exec b t).2

/-- From related surroundings, related results and related surroundings. -/
abbrev Relate (R : Surroundings τ → Surroundings τ → Prop) (S : α → β → Prop) (a : Act τ α)
    (b : Act τ β) : Prop :=
  Leads R R S a b

/-- From related surroundings, the same result and related surroundings. -/
abbrev Agree (R : Surroundings τ → Surroundings τ → Prop) (a b : Act τ α) : Prop :=
  Relate R Eq a b

variable {R R₁ R' : Surroundings τ → Surroundings τ → Prop} {S : α → β → Prop}
  {T : γ → δ → Prop}

theorem Leads.cases {a : Act τ α} {b : Act τ β} (h : Leads R R' S a b) {s t : Surroundings τ}
    (hR : R s t) :
    (∃ f s' t', exec a s = (.error f, s') ∧ exec b t = (.error f, t') ∧ R' s' t') ∨
      ∃ x y s' t', exec a s = (.ok x, s') ∧ exec b t = (.ok y, t') ∧ S x y ∧ R' s' t' := by
  have h' := h s t hR
  rcases ha : exec a s with ⟨f | x, s'⟩ <;> rcases hb : exec b t with ⟨g | y, t'⟩ <;>
    rw [ha, hb] at h'
  · obtain rfl : f = g := h'.1
    exact .inl ⟨f, s', t', rfl, rfl, h'.2⟩
  · exact h'.1.elim
  · exact h'.1.elim
  · exact .inr ⟨x, y, s', t', rfl, rfl, h'⟩

theorem Leads.mono {R₀ : Surroundings τ → Surroundings τ → Prop} {S' : α → β → Prop}
    {a : Act τ α} {b : Act τ β} (h : Leads R R₁ S a b) (hR : ∀ s t, R₀ s t → R s t)
    (hR' : ∀ s t, R₁ s t → R' s t) (hS : ∀ x y, S x y → S' x y) : Leads R₀ R' S' a b :=
  fun s t hst => ⟨(h s t (hR s t hst)).1.mono hS, hR' _ _ (h s t (hR s t hst)).2⟩

theorem Leads.bind {a : Act τ α} {b : Act τ β} {k : α → Act τ γ} {l : β → Act τ δ}
    (h : Leads R R₁ S a b) (hk : ∀ x y, S x y → Leads R₁ R' T (k x) (l y))
    (hR : ∀ s t, R₁ s t → R' s t) : Leads R R' T (a >>= k) (b >>= l) := by
  intro s t hst
  simp only [exec_bind]
  obtain ⟨f, s', t', ha, hb, h'⟩ | ⟨x, y, s', t', ha, hb, hxy, h'⟩ := h.cases hst <;> rw [ha, hb]
  · exact ⟨rfl, hR s' t' h'⟩
  · exact hk x y hxy s' t' h'

theorem Leads.tryCatch {a : Act τ α} {b : Act τ β} {k : Failure → Act τ α}
    {l : Failure → Act τ β} (h : Leads R R' S a b) (hk : ∀ f, Relate R' S (k f) (l f)) :
    Leads R R' S (tryCatch a k) (tryCatch b l) := by
  intro s t hst
  simp only [exec_tryCatch]
  obtain ⟨f, s', t', ha, hb, h'⟩ | ⟨x, y, s', t', ha, hb, hxy, h'⟩ := h.cases hst <;> rw [ha, hb]
  · exact hk f s' t' h'
  · exact ⟨hxy, h'⟩

theorem Leads.tryFinally {a : Act τ α} {b : Act τ β} {c : Act τ γ} {d : Act τ δ}
    (h : Leads R R' S a b) (hc : Relate R' T c d) :
    Leads R R' S (tryFinally a c) (tryFinally b d) := by
  intro s t hst
  have h' := h s t hst
  simp only [exec_tryFinally]
  obtain ⟨f, u, v, hc, hd, hR⟩ | ⟨_, _, u, v, hc, hd, -, hR⟩ := hc.cases h'.2 <;> rw [hc, hd]
  · exact ⟨rfl, hR⟩
  · exact ⟨h'.1, hR⟩

theorem Relate.pure {x : α} {y : β} (h : S x y) : Relate R S (pure x) (pure y) :=
  fun _ _ hR => ⟨h, hR⟩

theorem Relate.throw (f : Failure) : Relate R S (throw f) (throw f) :=
  fun _ _ hR => ⟨rfl, hR⟩

theorem Relate.bind {a : Act τ α} {b : Act τ β} {k : α → Act τ γ} {l : β → Act τ δ}
    (h : Relate R S a b) (hk : ∀ x y, S x y → Relate R T (k x) (l y)) :
    Relate R T (a >>= k) (b >>= l) :=
  Leads.bind h hk fun _ _ h => h

theorem Leads.get {k : Surroundings τ → Act τ α} {l : Surroundings τ → Act τ β}
    (h : ∀ s t, R s t → Leads R R' S (k s) (l t)) : Leads R R' S (get >>= k) (get >>= l) :=
  fun s t hR => by simpa only [exec_bind, exec_get] using h s t hR s t hR

theorem Relate.get {k : Surroundings τ → Act τ α} {l : Surroundings τ → Act τ β}
    (h : ∀ s t, R s t → Relate R S (k s) (l t)) : Relate R S (get >>= k) (get >>= l) :=
  Leads.get h

theorem Agree.result_eq {a b : Act τ α} (h : Leads R R' Eq a b) {s t : Surroundings τ}
    (hR : R s t) : (exec a s).1 = (exec b t).1 :=
  ends_eq_iff.mp (h s t hR).1

theorem Agree.bind {a b : Act τ α} {k : α → Act τ γ} {l : α → Act τ δ} (h : Agree R a b)
    (hk : ∀ x, Relate R T (k x) (l x)) : Relate R T (a >>= k) (b >>= l) :=
  Relate.bind h fun x _ hxy => hxy ▸ hk x

theorem Agree.knowing {a : Act τ α} (h : Agree R a a) {P : α → Prop}
    (hP : ∀ s x t, exec a s = (.ok x, t) → P x) :
    Relate R (fun x y => x = y ∧ P x) a a := by
  intro s t hst
  obtain ⟨f, s', t', hs, ht, h'⟩ | ⟨x, y, s', t', hs, ht, hxy, h'⟩ := h.cases hst <;> rw [hs, ht]
  · exact ⟨rfl, h'⟩
  · exact ⟨⟨hxy, hP s x s' hs⟩, h'⟩

end Tether.Act
