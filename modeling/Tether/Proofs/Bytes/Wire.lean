import Tether.Bytes.Wire
import Tether.Proofs.Text.Utf8
import Mathlib.Algebra.Ring.Int.Defs
import Mathlib.Algebra.Ring.Nat

/-! # Reading back what was written

Every field of the wire format is read back from the bytes that it is written as, and what follows
it is left. The readers of this module refuse a field that is cut short; where they succeed, the
reader that fills it up reads the same.
-/

namespace Tether

namespace Bytes

theorem toNat_ofNat {width n : Nat} (h : n < 2 ^ (8 * width)) : toNat (ofNat width n) = n := by
  induction width generalizing n with
  | zero =>
    rw [Nat.mul_zero, pow_zero, Nat.lt_one_iff] at h
    rw [h]
    rfl
  | succ width ih =>
    have hhigh : n / 256 < 2 ^ (8 * width) := by
      rw [Nat.mul_succ, pow_add] at h
      omega
    have hlow : toNat [UInt8.ofNat (n % 256)] = n % 256 := by
      simp [toNat]
    rw [ofNat, toNat_append, ih hhigh, hlow, List.length_singleton, Nat.shiftLeft_eq]
    omega

end Bytes

namespace Wire

variable {r : Bytes}

def whole? (bs : Bytes) : Option (Bytes × Bytes) := do
  let (n, r) ← word? bs
  if r.length < n then none else some (r.take n, r.drop n)

def text? (bs : Bytes) : Option (String × Bytes) := do
  let (s, r) ← whole? bs
  let cs ← (Utf8.decode s).toOption
  return (String.ofList cs, r)

def flag? : Bytes → Option (Bool × Bytes)
  | [] => none
  | b :: r => some (b ≠ 0, r)

theorem word?_putWord {n : Nat} (h : n < 2 ^ 32) : word? (putWord n ++ r) = some (n, r) := by
  have hlength : (putWord n).length = 4 := Bytes.length_ofNat 4 n
  rw [word?, if_neg (by simp [hlength]), List.take_left' hlength, List.drop_left' hlength, putWord,
    Bytes.toNat_ofNat h]

theorem whole?_putString {s : Bytes} (h : s.length < 2 ^ 32) :
    whole? (putString s ++ r) = some (s, r) := by
  rw [whole?, putString, List.append_assoc, word?_putWord h]
  simp

theorem text?_putText {s : String} (h : (Utf8.encode s).length < 2 ^ 32) :
    text? (putText s ++ r) = some (s, r) := by
  rw [text?, putText, whole?_putString h]
  simp [Utf8.decode_encode, Except.toOption]

/-! ### The reader that fills up -/

theorem word_of_le {bs : Bytes} (h : 4 ≤ bs.length) :
    word bs = (Bytes.toNat (bs.take 4), bs.drop 4) := by
  rw [word, take, if_neg (Nat.not_lt_of_le h)]

theorem text_of_text? {bs : Bytes} {s : String} (h : text? bs = some (s, r)) :
    text bs = (.ok s, r) := by
  obtain ⟨⟨bytes, rest⟩, hwhole, htext⟩ := Option.bind_eq_some_iff.mp h
  obtain ⟨⟨n, tail⟩, hword, hstring⟩ := Option.bind_eq_some_iff.mp hwhole
  obtain ⟨cs, hcs, hs⟩ := Option.bind_eq_some_iff.mp htext
  rw [word?] at hword
  split at hword
  case isTrue => cases hword
  case isFalse hlength =>
  cases hword
  dsimp only at hstring
  split at hstring
  case isTrue => cases hstring
  case isFalse hwithin =>
  cases hstring
  cases hs
  have hdecode : Utf8.decode ((bs.drop 4).take (Bytes.toNat (bs.take 4))) = .ok cs := by
    generalize Utf8.decode ((bs.drop 4).take (Bytes.toNat (bs.take 4))) = x at hcs ⊢
    cases x with
    | error e => cases hcs
    | ok ds => exact congrArg Except.ok (Option.some.inj hcs)
  rw [text, word_of_le (Nat.le_of_not_lt hlength)]
  dsimp only
  rw [if_neg fun h => hwithin h.1, take, if_neg hwithin]
  dsimp only
  rw [hdecode]
  rfl

theorem exists_of_map_eq_ok {ε α β : Type} {x : Except ε α} {f : α → β} {b : β}
    (h : x.map f = .ok b) : ∃ a, x = .ok a ∧ f a = b := by
  cases x with
  | error e => cases h
  | ok a => exact ⟨a, rfl, Except.ok.inj h⟩

/-- A text that is cut short still holds every character whose bytes are there. -/
theorem mem_of_text_short {bs xs ys : Bytes} {c : Char} {s : String}
    (hbytes : bs.drop 4 = xs ++ Utf8.encodeChar c ++ ys) (hlength : 4 ≤ bs.length)
    (hshort : bs.length < Bytes.toNat (bs.take 4)) (h : (text bs).1 = .ok s) : c ∈ s.toList := by
  have hrest : (bs.drop 4).length < Bytes.toNat (bs.take 4) := by
    rw [List.length_drop]
    omega
  rw [text, word_of_le hlength] at h
  dsimp only at h
  split at h
  case isTrue hfill =>
    dsimp only at h
    rw [hbytes, List.append_assoc (xs ++ Utf8.encodeChar c)] at h
    obtain ⟨cs, hcs, rfl⟩ := exists_of_map_eq_ok h
    rw [String.toList_ofList]
    exact List.mem_append_left _ (Utf8.mem_of_decode hcs)
  case isFalse hfill =>
    rw [take, if_pos hrest, if_neg fun hlt => hfill ⟨hrest, hlt⟩] at h
    dsimp only at h
    rw [hbytes] at h
    obtain ⟨cs, hcs, rfl⟩ := exists_of_map_eq_ok h
    rw [String.toList_ofList]
    exact Utf8.mem_of_decode hcs

end Wire

end Tether
