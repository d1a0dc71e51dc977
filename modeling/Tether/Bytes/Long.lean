import Tether.Bytes.Basic

/-! # Long numbers

Numbers of many bytes, read and written by halves, which takes far fewer steps
than byte by byte. The halves give the same number and the same bytes.
-/

namespace Tether.Bytes

theorem toNat_foldl (bs : Bytes) (n : Nat) :
    bs.foldl (fun n b => n * 256 + b.toNat) n = (n <<< (8 * bs.length)) + toNat bs := by
  induction bs generalizing n with
  | nil => simp [toNat]
  | cons b r ih =>
    rw [toNat, List.foldl_cons, List.foldl_cons, ih, ih (0 * 256 + b.toNat), List.length_cons,
      Nat.mul_add_one 8, Nat.add_comm (8 * r.length), Nat.shiftLeft_add, Nat.shiftLeft_eq n 8,
      Nat.zero_mul, Nat.zero_add, ← Nat.add_assoc]
    simp only [Nat.shiftLeft_eq, Nat.add_mul, Nat.reducePow]

theorem toNat_append (as bs : Bytes) :
    toNat (as ++ bs) = toNat as <<< (8 * bs.length) + toNat bs := by
  rw [toNat, List.foldl_append, toNat_foldl]
  rfl

/-- The number that the bytes spell, put together from those of their two halves. -/
def toNatByHalves (bs : Bytes) : Nat :=
  if bs.length ≤ 64 then toNat bs
  else
    let half := bs.length / 2
    toNatByHalves (bs.take half) <<< (8 * (bs.length - half)) + toNatByHalves (bs.drop half)
termination_by bs.length
decreasing_by
  all_goals simp only [List.length_take, List.length_drop]; omega

theorem toNatByHalves_eq (bs : Bytes) : toNatByHalves bs = toNat bs := by
  fun_induction toNatByHalves bs with
  | case1 => rfl
  | case2 bs _ half ihTake ihDrop =>
    rw [ihTake, ihDrop, ← List.length_drop (i := half) (l := bs), ← toNat_append,
      List.take_append_drop]

theorem ofNat_add (a b n : Nat) : ofNat (a + b) n = ofNat a (n >>> (8 * b)) ++ ofNat b n := by
  induction b generalizing n with
  | zero => simp [ofNat]
  | succ b ih =>
    rw [← Nat.add_assoc, ofNat, ofNat, ih, Nat.mul_add_one, Nat.add_comm (8 * b),
      Nat.shiftRight_add, Nat.shiftRight_eq_div_pow n 8, List.append_assoc]

theorem ofNat_mod (width n : Nat) : ofNat width (n % (1 <<< (8 * width))) = ofNat width n := by
  induction width generalizing n with
  | zero => rfl
  | succ w ih =>
    rw [ofNat, ofNat, Nat.one_shiftLeft, Nat.mul_add_one, Nat.pow_add',
      Nat.mod_mul_right_div_self, Nat.mod_mul_right_mod, ← Nat.one_shiftLeft (8 * w), ih]

/-- The low `width` bytes of a number, whose two halves are worked out apart. -/
def ofNatByHalves (width n : Nat) : Bytes :=
  if width ≤ 64 then ofNat width n
  else
    let half := width / 2
    ofNatByHalves (width - half) (n >>> (8 * half)) ++ ofNatByHalves half (n % (1 <<< (8 * half)))
termination_by width
decreasing_by all_goals omega

theorem ofNatByHalves_eq (width n : Nat) : ofNatByHalves width n = ofNat width n := by
  fun_induction ofNatByHalves width n with
  | case1 => rfl
  | case2 width n _ half ihHigh ihLow =>
    rw [ihHigh, ihLow, ofNat_mod, ← ofNat_add]
    congr 1
    omega

/-- The number that the bytes spell in two's complement. -/
def toInt (bs : Bytes) : Int :=
  match bs with
  | [] => 0
  | b :: _ =>
    if b ≥ 0x80 then (toNatByHalves bs : Int) - (1 <<< (8 * bs.length) : Nat) else toNatByHalves bs

end Tether.Bytes
