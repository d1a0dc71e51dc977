import Tether.CommandLine.Help
import Tether.CommandLine.Settings
import Tether.Run
import Tether.Surroundings.Logging

/-! # The program

From the words of the command line to the exit status of the process.
-/

namespace Tether.Program

/-- Adds the supplied variables that are not set yet; of two with one name the first counts. -/
def loadEnvironment : Act Float Unit := do
  Act.emit .loadEnvironment
  modify fun s => { s with environment := s.supplied.foldl Environment.withDefault s.environment }

def askPassphrase (key : Path) : Act Float String := do
  Act.emit (.prompt s!"Passphrase for {key}: ")
  return (← get).passphrase

def randomBytes (_ : Nat) : Act Float Bytes := do
  Act.lift (← get).random

def means (env : Environment) : Run.Means Float where
  connect o := Connect.session o (some askPassphrase)
  makeNonce := Nonce.generate randomBytes
  environment := env

def invoke (a : CommandLine.Arguments) : Act Float Int := do
  loadEnvironment
  let env := (← get).environment
  match a.settings.options env with
  | .error (.configuration m) =>
    Act.printError s!"cpu: {m.text}\n"
    return exitFailure
  | .error f => throw f
  | .ok o =>
    let _ ← Logging.setup o
    Run.client (means env) o

def run (argv : List String) : Act Float Int := do
  match CommandLine.parse argv with
  | .error e =>
    Act.print e.output
    Act.printError e.report
    return e.status
  | .ok a =>
    if a.host.getD "" = "" then
      Act.printError CommandLine.helpText
      return exitFailure
    else invoke a

end Tether.Program
