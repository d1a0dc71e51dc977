import Tether.CommandLine.Flag
import Tether.Text.Blank
import Tether.Text.Digit

/-! # The words of a command line

Before anything is acted on, each word is read as an option or as a plain word.
An option may be shortened as long as one option only begins that way; a word
that could mean two options is refused.
-/

namespace Tether.CommandLine

inductive Role
  | plain
  /-- The first double hyphen; only plain words follow it. -/
  | separator
  /-- A known option as it is spelt in full, and the value written into the word. -/
  | option (flag : Flag) (spelling : List Char) (value : Option (List Char))
  | unknown
  deriving DecidableEq, Repr

structure Word where
  text : String
  role : Role
  deriving DecidableEq, Repr

/-- A negative number such as `-5` or `-.5`; one line feed may follow it. -/
def isNegativeNumber (cs : List Char) : Bool :=
  match cs with
  | '-' :: r =>
    let r := if r.getLast? = some '\n' then r.dropLast else r
    match r.dropWhile Text.isDecimal with
    | [] => r ≠ []
    | '.' :: f => f ≠ [] && f.all Text.isDecimal
    | _ => false
  | _ => false

structure Reading where
  flag : Flag
  spelling : List Char
  value : Option (List Char)
  deriving DecidableEq, Repr

def Reading.role (r : Reading) : Role := .option r.flag r.spelling r.value

/-- The part before the first equals sign and what follows it. -/
def splitValue (cs : List Char) : List Char × Option (List Char) :=
  match Text.splitFirst? '=' cs with
  | some (before, after) => (before, some after)
  | none => (cs, none)

/-- The options that a word with two hyphens may begin. -/
def longReadings (cs : List Char) : List Reading :=
  let (start, value) := splitValue cs
  table.filterMap fun (s, f) => if start.isPrefixOf s then some ⟨f, s, value⟩ else none

/-- The options that a word with one hyphen may begin, or whose letter it begins with and
runs on into a value. -/
def shortReadings (cs : List Char) : List Reading :=
  table.filterMap fun (s, f) =>
    if s = cs.take 2 then some ⟨f, s, some (cs.drop 2)⟩
    else if cs.isPrefixOf s then some ⟨f, s, none⟩ else none

def readings : List Char → List Reading
  | '-' :: '-' :: r => longReadings ('-' :: '-' :: r)
  | cs => shortReadings cs

/-- The option spelt exactly before an equals sign. -/
def assigned? (cs : List Char) : Option Reading := do
  let (before, after) ← Text.splitFirst? '=' cs
  let f ← flag? before
  return ⟨f, before, some after⟩

def exactReading? (cs : List Char) : Option Reading :=
  match flag? cs with
  | some f => some ⟨f, cs, none⟩
  | none => assigned? cs

def unmatched (cs : List Char) : Role :=
  if isNegativeNumber cs || cs.contains ' ' then .plain else .unknown

/-- What a word is taken for, or the spellings between which it leaves a doubt. -/
def roleOf (cs : List Char) : Except (List (List Char)) Role :=
  if cs.head? ≠ some '-' || cs = ['-'] then .ok .plain
  else match exactReading? cs with
    | some r => .ok r.role
    | none => match readings cs with
      | [] => .ok (unmatched cs)
      | [r] => .ok r.role
      | rs => .error (rs.map (·.spelling))

/-- A word that could be several options. -/
structure Doubt where
  word : String
  spellings : List String
  deriving DecidableEq, Repr

/-- Reads every word; the first doubtful one is refused. -/
def wordsOf : List String → Except Doubt (List Word)
  | [] => .ok []
  | s :: r =>
    if s = "--" then .ok (⟨s, .separator⟩ :: r.map (⟨·, .plain⟩))
    else match roleOf s.toList with
      | .error ss => .error ⟨s, ss.map String.ofList⟩
      | .ok role => (wordsOf r).map (⟨s, role⟩ :: ·)

end Tether.CommandLine
