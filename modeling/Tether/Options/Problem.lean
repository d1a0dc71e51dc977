/-! # Problems with options

Why an option is refused. A set of options is refused with all its problems at
once, each with the option it is about.
-/

namespace Tether.Options

inductive Fault
  | missing
  | unknown
  | notText
  | emptyText
  | notSwitch
  | unreadableSwitch
  | notInteger
  | unreadableInteger
  | oversizedInteger
  | fractional
  | infinite
  | below (bound : Nat)
  | above (bound : Nat)
  | notPositive
  | network
  | notPath
  | duration (text : String)
  | notNumber
  | exclusive
  /-- Options do not change once they are checked. -/
  | frozen
  deriving DecidableEq, Repr

namespace Fault

def text : Fault → String
  | .missing => "Field required"
  | .unknown => "Extra inputs are not permitted"
  | .notText => "Input should be a valid string"
  | .emptyText => "String should have at least 1 character"
  | .notSwitch => "Input should be a valid boolean"
  | .unreadableSwitch => "Input should be a valid boolean, unable to interpret input"
  | .notInteger => "Input should be a valid integer"
  | .unreadableInteger => "Input should be a valid integer, unable to parse string as an integer"
  | .oversizedInteger => "Unable to parse input string as an integer, exceeded maximum size"
  | .fractional => "Input should be a valid integer, got a number with a fractional part"
  | .infinite => "Input should be a finite number"
  | .below n => s!"Input should be greater than or equal to {n}"
  | .above n => s!"Input should be less than or equal to {n}"
  | .notPositive => "Input should be greater than 0"
  | .network => "Input should be 'tcp', 'tcp4' or 'tcp6'"
  | .notPath => "Input is not a valid path for <class 'pathlib.Path'>"
  | .duration t => s!"Value error, {t}"
  | .notNumber => "Input should be a valid number"
  | .exclusive => "Value error, You can only set either dump OR debug"
  | .frozen => "Instance is frozen"

end Fault

structure Problem where
  option : String
  fault : Fault
  deriving DecidableEq, Repr

def Problem.text (p : Problem) : String :=
  (if p.option = "" then "options" else p.option) ++ ": " ++ p.fault.text

def reportText (ps : List Problem) : String :=
  "invalid options: " ++ String.intercalate "; " (ps.map Problem.text)

def blamed (ps : List Problem) : String := (ps.head?.map (·.option)).getD ""

/-- What comes of setting a field of checked options. -/
inductive Assignment
  | taken
  | refused (p : Problem)
  /-- The value cannot be what the field is for. -/
  | unusable
  deriving DecidableEq, Repr

def structuralFields : List String := ["__class__", "__dict__"]

/-- Sets a field. A name with an underscore in front is none of the options' own and is
taken, any other is refused. -/
def assign (name : String) : Assignment :=
  if structuralFields.contains name then .unusable
  else if name.toList.head? = some '_' then .taken
  else .refused ⟨name, .frozen⟩

end Tether.Options
