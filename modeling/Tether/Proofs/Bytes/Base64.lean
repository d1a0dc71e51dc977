import Tether.Bytes.Base64
import Mathlib.Data.List.Basic

/-! # Base64 and back

Bytes are read back from their text, by the reader that takes nothing but the alphabet.
-/

namespace Tether.Base64

theorem value?_character {n : Nat} (h : n < 64) : value? (character n) = some n := by
  have hall : ∀ n < 64, value? (character n) = some n := by decide
  exact hall n h

theorem character_ne_pad {n : Nat} (h : n < 64) : character n ≠ '=' := by
  have hall : ∀ n < 64, character n ≠ '=' := by decide
  exact hall n h

/-- A text that some values and some padding make, and the bytes that it stands for. -/
structure IsCode (values : List Nat) (pads : Nat) (bs : Bytes) : Prop where
  bounded : ∀ n ∈ values, n < 64
  padded : paddingOk values.length pads = true
  bytes : bytesOf values = bs

theorem paddingOk_add_four {count pads : Nat} (h : paddingOk count pads = true) :
    paddingOk (count + 4) pads = true := by
  unfold paddingOk at h ⊢
  rw [Nat.add_mod_right]
  split at h <;> simp_all

theorem ofNat_eq {b : UInt8} {n : Nat} (h : n = b.toNat) : UInt8.ofNat n = b := by
  rw [h, UInt8.ofNat_toNat]

theorem IsCode.group {values : List Nat} {pads : Nat} {bs : Bytes} (h : IsCode values pads bs)
    (a b c : UInt8) :
    IsCode (a.toNat / 4 :: (a.toNat % 4 * 16 + b.toNat / 16) ::
      (b.toNat % 16 * 4 + c.toNat / 64) :: c.toNat % 64 :: values) pads (a :: b :: c :: bs) := by
  have ha := a.toNat_lt
  have hb := b.toNat_lt
  have hc := c.toNat_lt
  constructor
  · simp only [List.forall_mem_cons]
    exact ⟨by omega, by omega, by omega, by omega, h.bounded⟩
  · exact paddingOk_add_four h.padded
  · rw [bytesOf, h.bytes, ofNat_eq (b := a) (by omega), ofNat_eq (b := b) (by omega),
      ofNat_eq (b := c) (by omega)]

theorem exists_isCode (bs : Bytes) : ∃ values pads,
    encode bs = values.map character ++ List.replicate pads '=' ∧ IsCode values pads bs := by
  fun_induction encode bs with
  | case1 a b c r ih =>
    obtain ⟨values, pads, htext, hcode⟩ := ih
    exact ⟨_, pads, by rw [htext]; rfl, hcode.group a b c⟩
  | case2 a b =>
    have ha := a.toNat_lt
    have hb := b.toNat_lt
    refine ⟨[a.toNat / 4, a.toNat % 4 * 16 + b.toNat / 16, b.toNat % 16 * 4], 1, rfl, ?_, rfl, ?_⟩
    · simp only [List.forall_mem_cons]
      exact ⟨by omega, by omega, by omega, by simp⟩
    · rw [bytesOf, ofNat_eq (b := a) (by omega), ofNat_eq (b := b) (by omega)]
  | case3 a =>
    have ha := a.toNat_lt
    refine ⟨[a.toNat / 4, a.toNat % 4 * 16], 2, rfl, ?_, rfl, ?_⟩
    · simp only [List.forall_mem_cons]
      exact ⟨by omega, by omega, by simp⟩
    · rw [bytesOf, ofNat_eq (b := a) (by omega)]
  | case4 => exact ⟨[], 0, rfl, by simp, rfl, rfl⟩

theorem mapM_value?_character {values : List Nat} (h : ∀ n ∈ values, n < 64) :
    (values.map character).mapM value? = some values := by
  induction values with
  | nil => rfl
  | cons n values ih =>
    rw [List.map_cons, List.mapM_cons, value?_character (h n List.mem_cons_self),
      ih fun m hm => h m (List.mem_cons_of_mem _ hm)]
    rfl

theorem isSome_of_mapM {cs : List Char} {values : List Nat} (h : cs.mapM value? = some values) :
    ∀ c ∈ cs, (value? c).isSome := by
  induction cs generalizing values with
  | nil => intro c hc; cases hc
  | cons d cs ih =>
    rw [List.mapM_cons] at h
    obtain ⟨n, hn, hrest⟩ := Option.bind_eq_some_iff.mp h
    obtain ⟨ns, hns, -⟩ := Option.bind_eq_some_iff.mp hrest
    intro c hc
    rcases List.mem_cons.mp hc with rfl | hc
    · rw [hn]
      rfl
    · exact ih hns c hc

theorem decodeStrict_encode (bs : Bytes) : decodeStrict (encode bs) = some bs := by
  obtain ⟨values, pads, htext, hcode⟩ := exists_isCode bs
  have hbody : ∀ c ∈ values.map character, decide (c ≠ '=') = true := by
    intro c hc
    obtain ⟨n, hn, rfl⟩ := List.mem_map.mp hc
    exact decide_eq_true (character_ne_pad (hcode.bounded n hn))
  have hpads : (List.replicate pads '=').takeWhile (· ≠ '=') = [] := by
    cases pads <;> rfl
  rw [decodeStrict, htext, List.takeWhile_append_of_pos hbody, hpads, List.append_nil,
    List.drop_left, mapM_value?_character hcode.bounded]
  simp [hcode.padded, hcode.bytes]

/-- What is read holds nothing but the alphabet and padding. -/
theorem mem_of_decodeStrict {cs : List Char} {bs : Bytes} (h : decodeStrict cs = some bs) :
    ∀ c ∈ cs, (value? c).isSome ∨ c = '=' := by
  obtain ⟨values, hvalues, hread⟩ := Option.bind_eq_some_iff.mp h
  split at hread
  case isFalse => cases hread
  case isTrue hpads =>
    rw [Bool.and_eq_true, List.all_eq_true] at hpads
    have hcut : cs.takeWhile (· ≠ '=') ++ cs.drop (cs.takeWhile (· ≠ '=')).length = cs :=
      List.prefix_iff_eq_append.mp (List.takeWhile_prefix _)
    intro c hc
    rw [← hcut] at hc
    rcases List.mem_append.mp hc with hc | hc
    · exact .inl (isSome_of_mapM hvalues c hc)
    · exact .inr (by simpa using hpads.1 c hc)

end Tether.Base64
