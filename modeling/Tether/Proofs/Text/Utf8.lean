import Tether.Text.Utf8
import Mathlib.Data.List.Basic

/-! # Texts as bytes and back

The bytes of a character are read as that character, whatever follows them. So a text is read back
from its bytes. No character reaches into the bytes of another one, so wherever its bytes stand in
a text, the character is there.
-/

namespace Tether.Utf8

theorem toNat_cases (c : Char) : c.toNat < 0xd800 ∨ 0xdfff < c.toNat ∧ c.toNat < 0x110000 := by
  simpa [UInt32.isValidChar, Nat.isValidChar] using c.valid

section Heads

variable {b c d e : UInt8} {r : Bytes} {w x y z : Nat}

theorem isContinuation_of_toNat (h : b.toNat = 0x80 + x % 64) : isContinuation b = true := by
  have hlow : 0x80 ≤ b := UInt8.le_iff_toNat_le.mpr (show 0x80 ≤ b.toNat by omega)
  have hhigh : b < 0xc0 := UInt8.lt_iff_toNat_lt.mpr (show b.toNat < 0xc0 by omega)
  simp [isContinuation, hlow, hhigh]

theorem payload_of_toNat (h : b.toNat = 0x80 + x % 64) : payload b = x % 64 := by
  rw [payload, h]
  omega

theorem secondOk_of_toNat (hc : c.toNat = 0x80 + x % 64) (he0 : b.toNat = 0xe0 → 0x20 ≤ x % 64)
    (hed : b.toNat = 0xed → x % 64 < 0x20) (hf0 : b.toNat = 0xf0 → 0x10 ≤ x % 64)
    (hf4 : b.toNat = 0xf4 → x % 64 < 0x10) : secondOk b c = true := by
  rw [secondOk, isContinuation_of_toNat hc, Bool.true_and]
  simp only [← UInt8.toNat_inj, ge_iff_le, UInt8.le_iff_toNat_le, UInt8.lt_iff_toNat_lt, hc]
  split
  case isTrue h =>
    have hx := he0 h
    exact decide_eq_true (show 0xa0 ≤ 0x80 + x % 64 by omega)
  split
  case isTrue h =>
    have hx := hed h
    exact decide_eq_true (show 0x80 + x % 64 < 0xa0 by omega)
  split
  case isTrue h =>
    have hx := hf0 h
    exact decide_eq_true (show 0x90 ≤ 0x80 + x % 64 by omega)
  split
  case isTrue h =>
    have hx := hf4 h
    exact decide_eq_true (show 0x80 + x % 64 < 0x90 by omega)
  rfl

theorem headOf_one (h : b.toNat < 0x80) : headOf b r = (.ok (Char.ofNat b.toNat), 1) := by
  simp [headOf.eq_def, UInt8.lt_iff_toNat_lt, h]

theorem headOf_two (hb : b.toNat = 0xc0 + w) (hw : 2 ≤ w ∧ w < 32)
    (hc : c.toNat = 0x80 + x % 64) :
    headOf b (c :: r) = (.ok (Char.ofNat (w * 64 + x % 64)), 2) := by
  have hstart : ¬ b.toNat < 128 ∧ ¬ (b.toNat < 194 ∨ 244 < b.toNat) ∧ b.toNat < 224 := by omega
  have hsecond : secondOk b c = true := secondOk_of_toNat hc (by omega) (by omega) (by omega)
    (by omega)
  have hlead : b.toNat % 32 = w := by omega
  simp [headOf, UInt8.lt_iff_toNat_lt, hstart, hsecond, payload_of_toNat hc, hlead]

theorem headOf_three (hb : b.toNat = 0xe0 + w) (hw : w < 16) (hlow : w = 0 → 32 ≤ x % 64)
    (hsurrogate : w = 13 → x % 64 < 32) (hc : c.toNat = 0x80 + x % 64)
    (hd : d.toNat = 0x80 + y % 64) :
    headOf b (c :: d :: r) = (.ok (Char.ofNat (w * 4096 + x % 64 * 64 + y % 64)), 3) := by
  have hstart : ¬ b.toNat < 128 ∧ ¬ (b.toNat < 194 ∨ 244 < b.toNat) ∧ ¬ b.toNat < 224 ∧
    b.toNat < 240 := by omega
  have hsecond : secondOk b c = true := secondOk_of_toNat hc (by omega) (by omega) (by omega)
    (by omega)
  have hlead : b.toNat % 16 = w := by omega
  simp [headOf, UInt8.lt_iff_toNat_lt, hstart, hsecond, isContinuation_of_toNat hd,
    payload_of_toNat hc, payload_of_toNat hd, hlead]

theorem headOf_four (hb : b.toNat = 0xf0 + w) (hw : w ≤ 4) (hlow : w = 0 → 16 ≤ x % 64)
    (hhigh : w = 4 → x % 64 < 16) (hc : c.toNat = 0x80 + x % 64) (hd : d.toNat = 0x80 + y % 64)
    (he : e.toNat = 0x80 + z % 64) :
    headOf b (c :: d :: e :: r) =
      (.ok (Char.ofNat (w * 262144 + x % 64 * 4096 + y % 64 * 64 + z % 64)), 4) := by
  have hstart : ¬ b.toNat < 128 ∧ ¬ (b.toNat < 194 ∨ 244 < b.toNat) ∧ ¬ b.toNat < 224 ∧
    ¬ b.toNat < 240 := by omega
  have hsecond : secondOk b c = true := secondOk_of_toNat hc (by omega) (by omega) (by omega)
    (by omega)
  have hlead : b.toNat % 8 = w := by omega
  simp [headOf, UInt8.lt_iff_toNat_lt, hstart, hsecond, isContinuation_of_toNat hd,
    isContinuation_of_toNat he, payload_of_toNat hc, payload_of_toNat hd, payload_of_toNat he,
    hlead]

end Heads

theorem headOf_encodeChar (c : Char) :
    ∃ b t, encodeChar c = b :: t ∧ ∀ r, headOf b (t ++ r) = (.ok c, t.length + 1) := by
  have hvalid := toNat_cases c
  have hlead {n : Nat} (h : n < 256) : (UInt8.ofNat n).toNat = n := by
    rw [UInt8.toNat_ofNat', Nat.mod_eq_of_lt h]
  have htail (n : Nat) : (UInt8.ofNat (0x80 + n % 64)).toNat = 0x80 + n % 64 :=
    hlead (by omega)
  have hspelt {n : Nat} (h : n = c.toNat) : Char.ofNat n = c := by rw [h, Char.ofNat_toNat]
  rw [encodeChar]
  split
  case isTrue h =>
    have hb := hlead (n := c.toNat) (by omega)
    refine ⟨_, _, rfl, fun r => (headOf_one (by omega)).trans ?_⟩
    rw [hb, Char.ofNat_toNat]
    rfl
  case isFalse h80 =>
  split
  case isTrue h =>
    refine ⟨_, _, rfl, fun r => (headOf_two (hlead (by omega)) (by omega) (htail _)).trans ?_⟩
    rw [hspelt (by omega)]
    rfl
  case isFalse h800 =>
  split
  case isTrue h =>
    refine ⟨_, _, rfl, fun r => (headOf_three (hlead (by omega)) (by omega) (by omega) (by omega)
      (htail _) (htail _)).trans ?_⟩
    rw [hspelt (by omega)]
    rfl
  case isFalse h10000 =>
    refine ⟨_, _, rfl, fun r => (headOf_four (hlead (by omega)) (by omega) (by omega) (by omega)
      (htail _) (htail _) (htail _)).trans ?_⟩
    rw [hspelt (by omega)]
    rfl

theorem sequences_encode (cs : List Char) {fuel : Nat}
    (h : (cs.flatMap encodeChar).length ≤ fuel) :
    sequences fuel (cs.flatMap encodeChar) = cs.map fun c => (.ok c, (encodeChar c).length) := by
  induction cs generalizing fuel with
  | nil => cases fuel <;> rfl
  | cons c cs ih =>
    obtain ⟨b, t, hchar, hhead⟩ := headOf_encodeChar c
    rw [List.flatMap_cons, hchar] at h ⊢
    cases fuel with
    | zero => simp at h
    | succ fuel =>
      rw [List.cons_append, List.length_cons, List.length_append] at h
      rw [List.cons_append, sequences, hhead, List.map_cons, hchar, Nat.add_sub_cancel,
        List.drop_left, ih (by omega)]
      rfl

theorem firstDefect_eq_none {hs : List Head} (h : ∀ x ∈ hs, x.1.isOk) (start : Nat) :
    firstDefect start hs = none := by
  induction hs generalizing start with
  | nil => rfl
  | cons x hs ih =>
    obtain ⟨_ | c, n⟩ := x
    · cases h _ List.mem_cons_self
    · exact ih (fun x hx => h x (List.mem_cons_of_mem _ hx)) _

theorem decode_encode (s : String) : decode (encode s) = .ok s.toList := by
  have hsequences := sequences_encode s.toList (Nat.le_refl _)
  have hdefect : firstDefect 0 (s.toList.map fun c => (Except.ok c, (encodeChar c).length)) = none :=
    firstDefect_eq_none (by simp [Except.isOk, Except.toBool]) 0
  rw [decode, encode, hsequences, hdefect]
  simp [List.filterMap_map, Except.toOption]

/-! ### Characters inside a text -/

theorem headOf_of_isContinuation {b : UInt8} (h : isContinuation b = true) (r : Bytes) :
    headOf b r = (.error .invalidStart, 1) := by
  have hrange : 128 ≤ b.toNat ∧ b.toNat < 192 := by
    simpa [isContinuation, UInt8.le_iff_toNat_le, UInt8.lt_iff_toNat_lt] using h
  have hstart : ¬ b.toNat < 128 ∧ (b.toNat < 194 ∨ 244 < b.toNat) := by omega
  simp [headOf.eq_def, UInt8.lt_iff_toNat_lt, hstart]

theorem isContinuation_of_secondOk {b c : UInt8} (h : secondOk b c = true) :
    isContinuation c = true := by
  rw [secondOk, Bool.and_eq_true] at h
  exact h.1

theorem isContinuation_of_headOf {b : UInt8} {r : Bytes} {c : Char} {n : Nat}
    (h : headOf b r = (.ok c, n)) :
    n - 1 ≤ r.length ∧ ∀ x ∈ r.take (n - 1), isContinuation x = true := by
  unfold headOf at h
  split at h
  case isTrue => cases h; simp
  split at h
  case isTrue => cases h
  split at h
  case h_1 => cases h
  split at h
  case isTrue => cases h
  rename_i c₂ r₂ hsecond
  have hc₂ : isContinuation c₂ = true := isContinuation_of_secondOk (by simpa using hsecond)
  split at h
  case isTrue =>
    cases h
    simp [hc₂]
  split at h
  case h_1 => cases h
  split at h
  case isTrue => cases h
  rename_i c₃ r₃ hthird
  have hc₃ : isContinuation c₃ = true := by simpa using hthird
  split at h
  case isTrue =>
    cases h
    simp [hc₂, hc₃]
  split at h
  case h_1 => cases h
  split at h
  case isTrue => cases h
  rename_i c₄ r₄ hfourth
  have hc₄ : isContinuation c₄ = true := by simpa using hfourth
  cases h
  simp [hc₂, hc₃, hc₄]

/-- Where nothing is malformed, no character reaches into the bytes of another. -/
theorem mem_sequences {xs ys : Bytes} {c : Char} {fuel : Nat}
    (hfuel : (xs ++ encodeChar c ++ ys).length ≤ fuel)
    (h : ∀ x ∈ sequences fuel (xs ++ encodeChar c ++ ys), x.1.isOk) :
    ∃ n, (.ok c, n) ∈ sequences fuel (xs ++ encodeChar c ++ ys) := by
  obtain ⟨lead, tail, hchar, hhead⟩ := headOf_encodeChar c
  rw [hchar] at hfuel h ⊢
  induction fuel generalizing xs with
  | zero => simp at hfuel
  | succ fuel ih =>
    cases xs with
    | nil =>
      rw [List.nil_append, List.cons_append, sequences, hhead]
      exact ⟨_, List.mem_cons_self⟩
    | cons b xs =>
      simp only [List.cons_append, List.append_assoc, sequences] at hfuel h ⊢
      cases hfirst : headOf b (xs ++ lead :: (tail ++ ys)) with
      | mk r n =>
        rw [hfirst] at h
        obtain ⟨d, rfl⟩ : ∃ d, r = .ok d := by
          have hok := h _ List.mem_cons_self
          cases r with
          | error => cases hok
          | ok d => exact ⟨d, rfl⟩
        obtain ⟨-, hcontinued⟩ := isContinuation_of_headOf hfirst
        have hle : n - 1 ≤ xs.length := by
          by_contra hlt
          have hlead : lead ∈ (xs ++ lead :: (tail ++ ys)).take (n - 1) := by
            obtain ⟨k, hk⟩ := Nat.exists_eq_add_of_lt (Nat.lt_of_not_le hlt)
            rw [hk, List.take_append, Nat.add_assoc, Nat.add_sub_cancel_left, List.take_succ_cons]
            exact List.mem_append_right _ List.mem_cons_self
          have hstart := headOf_of_isContinuation (hcontinued lead hlead) tail
          have hread := hhead []
          rw [List.append_nil, hstart] at hread
          cases hread
        rw [List.drop_append_of_le_length hle] at h ⊢
        obtain ⟨m, hm⟩ := @ih (xs.drop (n - 1))
          (fun x hx => h x (List.mem_cons_of_mem _ (by simpa using hx)))
          (by simp at hfuel ⊢; omega)
        exact ⟨m, List.mem_cons_of_mem _ (by simpa using hm)⟩

theorem isOk_of_firstDefect {hs : List Head} {start : Nat} (h : firstDefect start hs = none) :
    ∀ x ∈ hs, x.1.isOk := by
  induction hs generalizing start with
  | nil => intro x hx; cases hx
  | cons y hs ih =>
    obtain ⟨_ | c, n⟩ := y
    · cases h
    · intro x hx
      rcases List.mem_cons.mp hx with rfl | hx
      · rfl
      · exact ih h x hx

/-- A character whose bytes stand anywhere in a text is in the text. -/
theorem mem_of_decode {xs ys : Bytes} {c : Char} {cs : List Char}
    (h : decode (xs ++ encodeChar c ++ ys) = .ok cs) : c ∈ cs := by
  unfold decode at h
  dsimp only at h
  split at h
  case h_1 => cases h
  case h_2 hnone =>
    cases h
    obtain ⟨n, hn⟩ := mem_sequences (Nat.le_refl _) (isOk_of_firstDefect hnone)
    exact List.mem_filterMap.mpr ⟨_, hn, rfl⟩

/-- The bytes of a text hold nothing malformed that would have to be replaced. -/
theorem decodeLossy_encode (s : String) : decodeLossy (encode s) = s.toList := by
  rw [decodeLossy, encode, sequences_encode s.toList (Nat.le_refl _), List.map_map]
  exact List.map_id _

end Tether.Utf8
