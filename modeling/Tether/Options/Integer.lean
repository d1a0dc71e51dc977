import Tether.Options.Problem
import Tether.Text.Blank
import Tether.Text.Digit

/-! # Reading integers in options

An integer is written plainly, as a minus or none and digits without a zero in
front of them, or loosely: with blanks around it, a plus, zeros in front, single
underscores between digits, or a fraction of zeros. A loose form is brought to
the plain one and read as that.
-/

namespace Tether.Options

def isAsciiDigit (c : Char) : Bool := 48 ≤ c.toNat && c.toNat ≤ 57

def isLeadingDigit (c : Char) : Bool := isAsciiDigit c && c != '0'

/-- How many characters an integer may have, its sign among them. -/
def integerLimit : Nat := 4300

/-- The sign and the digits at the head of a text, if the first digit is not zero. -/
def plainHead (cs : List Char) : List Char :=
  let sign := (cs.take 1).filter (· = '-')
  let digits := (cs.drop sign.length).takeWhile isAsciiDigit
  if digits.head?.any isLeadingDigit then sign ++ digits else []

def plainValue? (cs : List Char) : Option Int :=
  match cs with
  | [] => none
  | ['0'] | ['-', '0'] => some 0
  | '-' :: ds => if plainHead cs = cs then some (-(Text.ofDecimals ds : Int)) else none
  | ds => if plainHead cs = cs then some (Text.ofDecimals ds) else none

/-- Reads a plain integer. One that goes on for too long is refused for that, whatever
follows it. -/
def plainInteger (cs : List Char) : Except Fault Int :=
  if (plainHead cs).length > integerLimit then .error .oversizedInteger
  else (plainValue? cs).elim (.error .unreadableInteger) .ok

/-- What follows zeros and underscores. A point takes the last of them along; if nothing
follows, the last one stays. -/
def afterZeros? (last : Char) : List Char → Option (List Char)
  | [] => some [last]
  | c :: r =>
    if c = '0' || c = '_' then afterZeros? c r
    else if isAsciiDigit c || c = '-' then some (c :: r)
    else if c = '.' then some (last :: c :: r)
    else none

def withoutLeadingZeros? : List Char → Option (List Char)
  | [] => none
  | c :: r =>
    if c = '0' then afterZeros? c r
    else if isAsciiDigit c || c = '-' then some (c :: r)
    else none

def withoutZeroFraction (cs : List Char) : List Char :=
  match Text.splitFirst? '.' cs with
  | some (whole, d :: ds) => if (d :: ds).all (· = '0') then whole else cs
  | _ => cs

/-- The text without its underscores, if each stands alone between two characters. -/
def withoutUnderscores (cs : List Char) : List Char :=
  let groups := Text.pieces (· = '_') cs
  if groups.contains [] then cs else groups.flatten

def tidyDigits? (cs : List Char) : Option (List Char) :=
  (withoutLeadingZeros? cs).map fun ds => withoutUnderscores (withoutZeroFraction ds)

/-- The plain form of a loosely written integer. -/
def tidy? (cs : List Char) : Option (List Char) :=
  match Text.trimBy Text.isSpace cs with
  | '+' :: '-' :: _ => none
  | '+' :: r => tidyDigits? r
  | '-' :: r => (tidyDigits? r).map ('-' :: ·)
  | r => tidyDigits? r

/-- Reads an integer, plain or loose; only a plain one is ever said to be too long. -/
def integerOfText (s : String) : Except Fault Int :=
  match plainInteger s.toList with
  | .error .unreadableInteger =>
    match (tidy? s.toList).map plainInteger with
    | some (.ok n) => .ok n
    | _ => .error .unreadableInteger
  | r => r

end Tether.Options
