import Tether.Text.Blank
import Tether.Text.Digit
import Tether.Text.Quoted

/-! # Reading whole numbers

A number is written with white space around it, a sign, and decimal digits of any
script, between which single underscores may stand.
-/

namespace Tether.Text

inductive NumberFault
  | malformed (text : String)
  | tooLong (digits : Nat)
  deriving DecidableEq, Repr

def digitLimit : Nat := 4300

def NumberFault.text : NumberFault → String
  | .malformed s =>
    "invalid literal for int() with base 10: " ++ String.ofList ((quotedChars s.toList).take 200)
  | .tooLong n =>
    s!"Exceeds the limit ({digitLimit} digits) for integer string conversion: value has {n} " ++
      "digits; use sys.set_int_max_str_digits() to increase the limit"

/-- The digits of a numeral and what follows them. An underscore counts only between two
digits; one that stands elsewhere in the run leaves no numeral (`none`). -/
def numeral (cs : List Char) : Option (List Char × List Char) :=
  let run := cs.takeWhile fun c => isDecimal c || c = '_'
  let groups := pieces (· = '_') run
  if groups.contains [] then none else some (groups.flatten, cs.drop run.length)

/-- The sign at the head of a text, and the rest. -/
def signed : List Char → Bool × List Char
  | '-' :: r => (true, r)
  | '+' :: r => (false, r)
  | r => (false, r)

def readInt (s : String) : Except NumberFault Int :=
  let (negative, body) := signed (trimBy isSpace s.toList)
  match numeral body with
  | none => .error (.malformed s)
  | some (digits, rest) =>
    if digits.length > digitLimit then .error (.tooLong digits.length)
    else if rest ≠ [] then .error (.malformed s)
    else .ok (if negative then -(ofDecimals digits : Int) else ofDecimals digits)

end Tether.Text
