import Tether.Options.Basic
import Tether.Options.Duration
import Tether.Options.Integer
import Tether.Options.Problem
import Tether.Options.Value

/-! # Checking options

`check` turns given values into client options, or lists every problem in the
order in which the options are declared.
-/

namespace Tether.Options

abbrev Checked := Except Fault

def checkText : Value → Checked String
  | .text s => .ok s
  | _ => .error .notText

def checkHost (v : Value) : Checked String := do
  let s ← checkText v
  if s = "" then .error .emptyText else .ok s

def onWords : List String := ["1", "on", "t", "true", "y", "yes"]
def offWords : List String := ["0", "off", "f", "false", "n", "no"]

/-- The doubles strictly inside the range of 64-bit words. -/
def floatBound : Float := 9223372036854775808.0

/-- A double without a fractional part, if it is inside the range of 64-bit words. -/
def wholeOfFloat? (x : Float) : Option Int :=
  if x.floor == x && -floatBound < x && x < floatBound then
    some (if x < 0 then -(((-x).toUInt64.toNat : Nat) : Int) else (x.toUInt64.toNat : Int))
  else none

/-- The switch that an integer stands for. Past 64-bit words it is no switch at all. -/
def switchOfInteger (n : Int) : Checked Bool :=
  if n = 0 then .ok false
  else if n = 1 then .ok true
  else if -0x8000000000000000 ≤ n ∧ n < 0x8000000000000000 then .error .unreadableSwitch
  else .error .notSwitch

def checkSwitch : Value → Checked Bool
  | .bool b => .ok b
  | .int n => switchOfInteger n
  | .float x => (wholeOfFloat? x).elim (.error .notSwitch) switchOfInteger
  | .text s =>
    if onWords.contains s.toLower then .ok true
    else if offWords.contains s.toLower then .ok false
    else .error .unreadableSwitch
  | _ => .error .notSwitch

def checkInteger : Value → Checked Int
  | .int n => .ok n
  | .bool b => .ok (if b then 1 else 0)
  | .float x =>
    if x.isInf || x.isNaN then .error .infinite
    else if x.floor != x then .error .fractional
    else (wholeOfFloat? x).elim (.error .oversizedInteger) .ok
  | .text s => integerOfText s
  | _ => .error .notInteger

/-- A whole number that is no less than `low`. -/
def checkAtLeast (low : Nat) (v : Value) : Checked Nat := do
  let n ← checkInteger v
  if n < low then .error (.below low) else .ok n.toNat

/-- A whole number from `low` to 65535. -/
def checkPort (low : Nat) (v : Value) : Checked Nat := do
  let n ← checkAtLeast low v
  if n > 65535 then .error (.above 65535) else .ok n

def checkNetwork : Value → Checked Network
  | .text s => (Network.ofString? s).elim (.error .network) .ok
  | _ => .error .network

def checkPath : Value → Checked Path
  | .text s => .ok (Path.ofString s)
  | _ => .error .notPath

def checkOptionalPath : Value → Checked (Option Path)
  | .null => .ok none
  | v => (checkPath v).map some

/-- The least magnitude that rounds past the largest double. -/
def doubleOverflow : Nat := (1 <<< 1024) - (1 <<< 970)

def secondsOf : Value → Checked Float
  | .text s => match Duration.read? s with
    | some d => .ok d.seconds
    | none => .error (.duration (Duration.faultText s))
  | .bool b => .ok (if b then 1 else 0)
  | .int n => if n.natAbs < doubleOverflow then .ok (Float.ofInt n) else .error .notNumber
  | .float x => .ok x
  | _ => .error .notNumber

def checkTimeout (v : Value) : Checked Float := do
  let t ← secondsOf v
  if 0 < t then .ok t else .error .notPositive

/-- The names of all options, in the order of their declaration. -/
def names : List String :=
  ["host", "command", "user", "bin", "debug", "dbg9p", "dump", "key_file", "host_key_file",
    "insecure", "mountopts", "msize", "network", "port", "port9p", "root", "timeout9p"]

/-- Given options by name; of two with one name the later one counts. -/
abbrev Given := List (String × Value)

def Given.get? (given : Given) (name : String) : Option Value := given.reverse.lookup name

variable {α : Type}

/-- The checked option of a name, which has a value also when it is not given. -/
def option (given : Given) (check : Value → Checked α) (name : String) (standard : α) :
    Checked α :=
  (given.get? name).elim (.ok standard) check

def required (given : Given) (check : Value → Checked α) (name : String) : Checked α :=
  (given.get? name).elim (.error .missing) check

def problem (name : String) (c : Checked α) : List Problem :=
  match c with
  | .ok _ => []
  | .error f => [⟨name, f⟩]

/-- The given names that no option has, each once. -/
def unknownNames (given : Given) : List String :=
  ((given.map (·.1)).filter fun n => !names.contains n).eraseDups

/-- Checks the options. Debug and dump are compared only when each option is right by
itself. -/
def check (given : Given) : Except (List Problem) ClientOptions :=
  let host := required given checkHost "host"
  let command := option given checkText "command" ""
  let user := option given checkText "user" ""
  let bin := option given checkText "bin" defaultBin
  let debug := option given checkSwitch "debug" false
  let dbg9p := option given checkSwitch "dbg9p" false
  let dump := option given checkSwitch "dump" false
  let keyFile := required given checkPath "key_file"
  let hostKeyFile := option given checkOptionalPath "host_key_file" none
  let insecure := option given checkSwitch "insecure" false
  let mountopts := option given checkText "mountopts" ""
  let msize := option given (checkAtLeast 4096) "msize" defaultMsize
  let network := option given checkNetwork "network" .tcp
  let port := option given (checkPort 1) "port" defaultPort
  let port9p := option given (checkPort 0) "port9p" 0
  let root := option given checkPath "root" { root := "/" }
  let timeout9p := option given checkTimeout "timeout9p" 0.1
  let problems :=
    problem "host" host ++ problem "command" command ++ problem "user" user ++
    problem "bin" bin ++ problem "debug" debug ++ problem "dbg9p" dbg9p ++
    problem "dump" dump ++ problem "key_file" keyFile ++
    problem "host_key_file" hostKeyFile ++ problem "insecure" insecure ++
    problem "mountopts" mountopts ++ problem "msize" msize ++ problem "network" network ++
    problem "port" port ++ problem "port9p" port9p ++ problem "root" root ++
    problem "timeout9p" timeout9p ++ (unknownNames given).map (⟨·, .unknown⟩)
  let checked : Checked ClientOptions := do
    return { host := ← host, command := ← command, user := ← user, bin := ← bin
             debug := ← debug, dbg9p := ← dbg9p, dump := ← dump, keyFile := ← keyFile
             hostKeyFile := ← hostKeyFile, insecure := ← insecure, mountopts := ← mountopts
             msize := ← msize, network := ← network, port := ← port, port9p := ← port9p
             root := ← root, timeout9p := ← timeout9p }
  match problems, checked with
  | [], .ok o => if o.debug && o.dump then .error [⟨"", .exclusive⟩] else .ok o
  | ps, _ => .error ps

end Tether.Options
