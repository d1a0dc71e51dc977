/-! # Six significant digits

The short text of a quantity: rounded to six significant digits, a half to the
even neighbour, without trailing zeros, and in scientific notation when the
exponent is below -4 or above 5.
-/

namespace Tether.Text

def precision : Nat := 6

/-- The nearest whole number to `num / den`, a half going to the even one. -/
def roundDiv (num den : Nat) : Nat :=
  let q := num / den
  let r := num % den
  if 2 * r > den || (2 * r = den && q % 2 = 1) then q + 1 else q

def digitCount (n : Nat) : Nat := (Nat.toDigits 10 n).length

/-- The exponent `x` with `10 ^ x ≤ num / den < 10 ^ (x + 1)`, for a positive quantity. -/
def decimalExponent (num den : Nat) : Int :=
  if den ≤ num then digitCount (num / den) - 1
  else -(digitCount ((den + num - 1) / num - 1) : Int)

/-- `num / den` as `precision` digits and the exponent of the first of them. -/
def scientific (num den : Nat) : Nat × Int :=
  let x := decimalExponent num den
  let shift := (precision : Int) - 1 - x
  let digits := if shift ≥ 0 then roundDiv (num * Nat.pow 10 shift.toNat) den
    else roundDiv num (den * Nat.pow 10 (-shift).toNat)
  if digits = Nat.pow 10 precision then (Nat.pow 10 (precision - 1), x + 1) else (digits, x)

def dropZeros (cs : List Char) : List Char := (cs.reverse.dropWhile (· = '0')).reverse

/-- Whole digits and a fraction, if any of it is left. -/
def pointed (whole fraction : List Char) : List Char :=
  match dropZeros fraction with
  | [] => whole
  | f => whole ++ '.' :: f

def twoDigits (n : Nat) : List Char :=
  if n < 10 then '0' :: Nat.toDigits 10 n else Nat.toDigits 10 n

/-- The text of the quantity `num / den`. -/
def significant (num den : Nat) : List Char :=
  if num = 0 then ['0'] else
  let (n, x) := scientific num den
  let digits := Nat.toDigits 10 n
  if x < -4 || x ≥ precision then
    pointed (digits.take 1) (digits.drop 1) ++ 'e' :: (if x < 0 then '-' else '+') ::
      twoDigits x.natAbs
  else if x < 0 then
    pointed ['0'] (List.replicate (x.natAbs - 1) '0' ++ digits)
  else
    pointed (digits.take (x.toNat + 1)) (digits.drop (x.toNat + 1))

def significantFloat (x : Float) : String :=
  let bits := x.toBits.toNat
  let sign := if bits >>> 63 = 1 then ['-'] else []
  let exponent := (bits >>> 52) % 2048
  let mantissa := bits % (1 <<< 52)
  if exponent = 2047 then
    if mantissa = 0 then String.ofList (sign ++ ['i', 'n', 'f']) else "nan"
  else
    let m := if exponent = 0 then mantissa else mantissa + (1 <<< 52)
    let e := if exponent = 0 then 1 else exponent
    String.ofList (sign ++
      (if e ≥ 1075 then significant (m <<< (e - 1075)) 1
       else significant m (1 <<< (1075 - e))))

end Tether.Text
