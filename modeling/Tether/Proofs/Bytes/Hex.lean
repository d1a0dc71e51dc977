import Tether.Bytes.Hex
import Mathlib.Data.List.Basic

/-! # Hexadecimal text and back

Bytes are read back from their text, and the texts of bytes are those of lowercase digits, two for
each byte.
-/

namespace Tether.Hex

def digits : List Char :=
  ['0', '1', '2', '3', '4', '5', '6', '7', '8', '9', 'a', 'b', 'c', 'd', 'e', 'f']

theorem digits_eq : digits = (List.range 16).map digit := by decide

theorem mem_digits_iff {c : Char} : c ∈ digits ↔ ∃ n < 16, digit n = c := by
  simp only [digits_eq, List.mem_map, List.mem_range]

theorem digit_mem_digits {n : Nat} (h : n < 16) : digit n ∈ digits :=
  mem_digits_iff.mpr ⟨n, h, rfl⟩

theorem lt_of_mem_digits {c : Char} (h : c ∈ digits) : c.toNat < 128 := by
  have hall : ∀ n < 16, (digit n).toNat < 128 := by decide
  obtain ⟨n, hn, rfl⟩ := mem_digits_iff.mp h
  exact hall n hn

theorem value?_digit {n : Nat} (h : n < 16) : value? (digit n) = some n := by
  have hall : ∀ n < 16, value? (digit n) = some n := by decide
  exact hall n h

theorem encodeChars_cons (b : UInt8) (bs : Bytes) :
    encodeChars (b :: bs) = digit (b.toNat / 16) :: digit (b.toNat % 16) :: encodeChars bs := rfl

theorem length_encodeChars (bs : Bytes) : (encodeChars bs).length = 2 * bs.length := by
  induction bs with
  | nil => rfl
  | cons b rest ih =>
    rw [encodeChars_cons, List.length_cons, List.length_cons, ih, List.length_cons]
    omega

theorem mem_digits_of_mem_encodeChars {bs : Bytes} {c : Char} (h : c ∈ encodeChars bs) :
    c ∈ digits := by
  obtain ⟨b, -, hc⟩ := List.mem_flatMap.mp h
  have hb := b.toNat_lt
  obtain rfl | rfl : c = digit (b.toNat / 16) ∨ c = digit (b.toNat % 16) := by simpa using hc
  · exact digit_mem_digits (by omega)
  · exact digit_mem_digits (by omega)

theorem decodeChars_encodeChars (bs : Bytes) : decodeChars (encodeChars bs) = some bs := by
  induction bs with
  | nil => rfl
  | cons b rest ih =>
    have hb := b.toNat_lt
    have hbyte : UInt8.ofNat (b.toNat / 16 * 16 + b.toNat % 16) = b := by
      rw [Nat.div_add_mod', UInt8.ofNat_toNat]
    rw [encodeChars_cons, decodeChars, value?_digit (by omega), value?_digit (by omega), ih]
    exact congrArg (some <| · :: rest) hbyte

theorem decode_encode (bs : Bytes) : decode (encode bs) = some bs := by
  rw [decode, encode, String.toList_ofList, decodeChars_encodeChars]

example : encode [0, 10, 255] = "000aff" := by decide

theorem exists_byte {hi lo : Nat} (hhi : hi < 16) (hlo : lo < 16) :
    ∃ b : UInt8, b.toNat / 16 = hi ∧ b.toNat % 16 = lo := by
  refine ⟨UInt8.ofNat (hi * 16 + lo), ?_⟩
  rw [UInt8.toNat_ofNat_of_lt' (by simp only [UInt8.size]; omega)]
  constructor <;> omega

theorem exists_encodeChars_eq {n : Nat} {cs : List Char} (hlength : cs.length = 2 * n)
    (hdigits : ∀ c ∈ cs, c ∈ digits) : ∃ bs : Bytes, bs.length = n ∧ encodeChars bs = cs := by
  induction n generalizing cs with
  | zero =>
    rw [List.length_eq_zero_iff.mp hlength]
    exact ⟨[], rfl, rfl⟩
  | succ n ih =>
    match cs, hlength with
    | c :: d :: rest, hlength =>
      simp only [List.forall_mem_cons] at hdigits
      obtain ⟨hc, hd, hrest⟩ := hdigits
      obtain ⟨hi, hhi, rfl⟩ := mem_digits_iff.mp hc
      obtain ⟨lo, hlo, rfl⟩ := mem_digits_iff.mp hd
      obtain ⟨b, rfl, rfl⟩ := exists_byte hhi hlo
      obtain ⟨bs, hbs, rfl⟩ := ih (by simp only [List.length_cons] at hlength; omega) hrest
      exact ⟨b :: bs, by rw [List.length_cons, hbs], encodeChars_cons b bs⟩

end Tether.Hex
