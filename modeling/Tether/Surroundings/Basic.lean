import Tether.Keys.Public
import Tether.Options.Basic
import Tether.Surroundings.Channel
import Tether.Surroundings.Event
import Tether.Surroundings.Files
import Tether.Surroundings.Log
import Tether.Surroundings.Network
import Tether.Time

/-! # The surroundings of the client

Everything that the client observes and changes: the clock, the log, the
terminal, the connection, the files. An action reads and changes them and ends
with a value or a failure; what was done before a failure stays done.
-/

namespace Tether

structure Surroundings (τ : Type) where
  clock : τ
  events : List (Event τ) := []
  log : Log := {}
  /-- The failures that ended a thread. -/
  threads : List (String × Failure) := []
  environment : Environment := []
  /-- The size of the terminal behind the output. -/
  window : Option (Int × Int) := none
  tty : Tty := {}
  terminal : TerminalState := {}
  signals : Signals := {}
  stdin : Reader := []
  stdout : Sink := {}
  stderr : Sink := {}
  connection : Connection τ := {}
  /-- The file-share servers that are installed, and the connections given to one so far. -/
  shares : List ShareEntry := []
  served : Nat := 0
  /-- The connections that were accepted so far, each with the time at which it came. -/
  accepted : List (Peer τ × τ) := []
  files : Files := {}
  network : Lookup := .found []
  /-- The key that the server presents, and the failure to log in. -/
  presented : Option PublicKey := none
  login : Option Failure := none
  /-- What the user types when asked for a passphrase. -/
  passphrase : String := ""
  random : Except Failure Bytes := .ok []
  /-- The variables that a file beside the program supplies. -/
  supplied : Environment := []

abbrev Act (τ : Type) := ExceptT Failure (StateM (Surroundings τ))

namespace Act

variable {τ : Type}

def emit (e : Event τ) : Act τ Unit :=
  modify fun s => { s with events := s.events ++ [e] }

def failIf : Option Failure → Act τ Unit
  | some f => throw f
  | none => pure ()

def now : Act τ τ := do return (← get).clock

def wait [Time τ] (span : τ) : Act τ Unit :=
  modify fun s => { s with clock := s.clock + span }

def printError (text : String) : Act τ Unit :=
  modify fun s => { s with stderr := (s.stderr.call (.print text)).2 }

def print (text : String) : Act τ Unit :=
  modify fun s => { s with stdout := (s.stdout.call (.print text)).2 }

def dump (l : Log) (text : String) : Log :=
  match l.dumps.reverse with
  | [] => l
  | d :: ds => { l with dumps := (((d ++ text) :: ds).reverse) }

/-- Logs a record where the log's outlet takes it, if its level counts. -/
def log (logger : String) (level : Level) (text : String) : Act τ Unit := do
  let l := (← get).log
  if l.threshold logger ≤ level.rank then
    let r : LogRecord := ⟨displayName logger, level, text⟩
    match l.outlet with
    | .records => modify fun s => { s with log := { l with records := l.records ++ [r] } }
    | .terminal named => printError (r.terminalText named)
    | .dump => modify fun s => { s with log := dump l (r.dumpText l.stamp) }

/-- Runs an action as a thread of its own, whose failure ends it alone. -/
def thread (name : String) (a : Act τ Unit) : Act τ Unit :=
  tryCatch a fun f => modify fun s => { s with threads := s.threads ++ [(name, f)] }

def lift {α : Type} : Except Failure α → Act τ α
  | .ok a => pure a
  | .error f => throw f

end Act

end Tether
