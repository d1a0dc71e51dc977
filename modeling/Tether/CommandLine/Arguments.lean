import Tether.CommandLine.Word
import Tether.Options.Basic
import Tether.Text.Number

/-! # Reading the command line

Options come first and are acted on from left to right. The first plain word is
the host, and every word after it belongs to the remote command, whatever it
looks like.
-/

namespace Tether.CommandLine

/-- What the command line asks for. -/
structure Arguments where
  bin : String := Options.defaultBin
  debug : Bool := false
  dump : Bool := false
  dbg9p : Bool := false
  hk : String := ""
  insecure : Bool := false
  key : String := ""
  mountopts : String := ""
  msize : Int := Options.defaultMsize
  network : String := "tcp"
  sp : Int := Options.defaultPort
  port9p : Int := 0
  root : String := "/"
  timeout9p : String := Options.defaultTimeout
  host : Option String := none
  command : List String := []
  /-- The options that were last given a lone separator, which leaves them without a value. -/
  emptied : List Flag := []
  deriving DecidableEq, Repr

/-- Why a command line is refused. -/
inductive UsageError
  | ambiguous (doubt : Doubt)
  | missingValue (flag : Flag)
  | strayValue (flag : Flag) (value : String)
  | notInteger (flag : Flag) (value : String)
  | notNetwork (value : String)
  | conflict (flag other : Flag)
  | unrecognized (words : List String)
  deriving DecidableEq, Repr

def aboutFlag (f : Flag) (text : String) : String := s!"argument {f.title}: {text}"

def UsageError.text : UsageError → String
  | .ambiguous d =>
    s!"ambiguous option: {d.word} could match " ++ String.intercalate ", " d.spellings
  | .missingValue f => aboutFlag f "expected one argument"
  | .strayValue f v => aboutFlag f s!"ignored explicit argument {Text.quoted v}"
  | .notInteger f v => aboutFlag f s!"invalid int value: {Text.quoted v}"
  | .notNetwork v => aboutFlag .network (s!"invalid choice: {Text.quoted v} (choose from " ++
      String.intercalate ", " (Network.all.map fun n => Text.quoted n.toString) ++ ")")
  | .conflict f g => aboutFlag f s!"not allowed with argument {g.title}"
  | .unrecognized ws => "unrecognized arguments: " ++ String.intercalate " " ws

/-- The ways to leave without running a command. -/
inductive Exit
  | help
  | version
  | usage (error : UsageError)
  deriving DecidableEq, Repr

def Arguments.switch (a : Arguments) : Flag → Except Exit Arguments
  | .help => .error .help
  | .version => .error .version
  | .debug =>
    if a.dump then .error (.usage (.conflict .debug .dump)) else .ok { a with debug := true }
  | .dump =>
    if a.debug then .error (.usage (.conflict .dump .debug)) else .ok { a with dump := true }
  | .dbg9p => .ok { a with dbg9p := true }
  | .insecure => .ok { a with insecure := true }
  | _ => .ok a

/-- The number that an option's value spells. -/
def integer (f : Flag) (v : String) : Except Exit Int :=
  match Text.readInt v with
  | .ok n => .ok n
  | .error _ => .error (.usage (.notInteger f v))

/-- Keeps the text of an option's value. -/
def Arguments.put (a : Arguments) (f : Flag) (v : String) : Except Exit Arguments :=
  match f with
  | .bin => .ok { a with bin := v }
  | .hk => .ok { a with hk := v }
  | .key => .ok { a with key := v }
  | .mountopts => .ok { a with mountopts := v }
  | .msize => (integer f v).map fun n => { a with msize := n }
  | .network =>
    if (Network.ofString? v).isSome then .ok { a with network := v }
    else .error (.usage (.notNetwork v))
  | .sp => (integer f v).map fun n => { a with sp := n }
  | .port9p => (integer f v).map fun n => { a with port9p := n }
  | .root => .ok { a with root := v }
  | .timeout9p => .ok { a with timeout9p := v }
  | _ => .ok a

def Arguments.set (a : Arguments) (f : Flag) (v : String) : Except Exit Arguments :=
  let others := a.emptied.filter (· ≠ f)
  if v = "--" then .ok { a with emptied := f :: others }
  else Arguments.put { a with emptied := others } f v

def letter? (c : Char) : Option Flag := (flag? ['-', c]).filter (·.isSwitch)

/-- The switches of a word that runs several letters together, `f` being the first. A
spelling with two hyphens takes no further letter. -/
def cluster (f : Flag) (spelling : List Char) : List Char → Except UsageError (List Flag)
  | [] => .error (.strayValue f "")
  | c :: r =>
    if spelling.take 2 = ['-', '-'] then .error (.strayValue f (String.ofList (c :: r)))
    else match letter? c with
      | none => .error (.strayValue f (String.ofList (c :: r)))
      | some g => if r = [] then .ok [f, g] else (cluster g ['-', c] r).map (f :: ·)

/-- Reads the host and the remote command from the words after the options. The separator
is dropped next to the host only. -/
def Arguments.positionals (a : Arguments) : List Word → Arguments
  | [] => a
  | w :: r => match w.role, r with
    | .separator, [] => a
    | .separator, h :: r => { a with host := some h.text, command := r.map (·.text) }
    | _, ⟨_, .separator⟩ :: r => { a with host := some w.text, command := r.map (·.text) }
    | _, r => { a with host := some w.text, command := r.map (·.text) }

/-- Acts on the words from left to right. Unknown options are put aside as `strays`. -/
def Arguments.consume (a : Arguments) (strays : List String) :
    List Word → Except Exit (Arguments × List String)
  | [] => .ok (a, strays)
  | ⟨text, .unknown⟩ :: r => a.consume (strays ++ [text]) r
  | ⟨_, .option f spelling (some v)⟩ :: r =>
    if f.isSwitch then
      match cluster f spelling v with
      | .error e => .error (.usage e)
      | .ok fs => match fs.foldlM Arguments.switch a with
        | .error e => .error e
        | .ok a => a.consume strays r
    else match a.set f (String.ofList v) with
      | .error e => .error e
      | .ok a => a.consume strays r
  | ⟨_, .option f _ none⟩ :: r =>
    if f.isSwitch then
      match a.switch f with
      | .error e => .error e
      | .ok a => a.consume strays r
    else match r with
      | ⟨v, .plain⟩ :: r => match a.set f v with
        | .error e => .error e
        | .ok a => a.consume strays r
      | _ => .error (.usage (.missingValue f))
  | ws => .ok (a.positionals ws, strays)

def parse (argv : List String) : Except Exit Arguments :=
  match wordsOf argv with
  | .error d => .error (.usage (.ambiguous d))
  | .ok ws => match Arguments.consume {} [] ws with
    | .error e => .error e
    | .ok (a, []) => .ok a
    | .ok (_, strays) => .error (.usage (.unrecognized strays))

end Tether.CommandLine
