import Tether.Program

/-! # The command

Gathers the arguments, the environment, the key files and the random bytes that
one invocation may use, runs the program on them, and writes what it says.
-/

namespace Tether.Command

def variableNames : List String :=
  ["HOME", "USER", "SHELL", "CPU_NAMESPACE", "CPU_FILESHARE", "COLUMNS", "LINES"]

def environment : IO Environment :=
  variableNames.filterMapM fun name => do
    return (← IO.getEnv name).map fun value => (name, value)

def keyPaths (argv : List String) (env : Environment) : List Path :=
  match CommandLine.parse argv with
  | .error _ => []
  | .ok a => match a.settings.options env with
    | .error _ => []
    | .ok o => (o.keyFile :: o.hostKeyFile.toList).filterMap fun p =>
      (Keys.expandHome {} env p).toOption

def entry (p : Path) : IO (List (Path × Bytes)) := do
  try
    return [(p, (← IO.FS.readBinFile p.toString).toList)]
  catch _ => return []

/-- What the system offers to one invocation. Hosts cannot be looked up from here. -/
def surroundings (argv : List String) : IO (Surroundings Float) := do
  let env ← environment
  let files ← (keyPaths argv env).flatMapM entry
  let random ← IO.getRandomBytes nonceBytes.toUSize
  let suffix ← IO.getRandomBytes 4
  let time ← IO.monoMsNow
  return {
    clock := Float.ofNat time / 1000
    log := { dumpName := s!"/tmp/cpu{Hex.encode suffix.toList}.log", stamp := s!"{time}" }
    environment := env
    files := { known := files }
    random := .ok random.toList
    network := .failed "Name or service not known" }

end Tether.Command

open Tether in
def main (argv : List String) : IO UInt32 := do
  let (status, s) := (Program.run argv).run (← Command.surroundings argv)
  (← IO.getStdout).write ⟨s.stdout.written.toArray⟩
  (← IO.getStderr).write ⟨s.stderr.written.toArray⟩
  s.log.dumps.forM fun text => IO.FS.writeFile s.log.dumpName text
  match status with
  | .ok n => return UInt32.ofNat (n % 256).toNat
  | .error f =>
    IO.eprintln f.text
    return 1
