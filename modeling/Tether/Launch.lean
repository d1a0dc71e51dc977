import Tether.Remote.Session

/-! # Launching the remote command

The command line of the server side, the environment that goes with it, and the
terminal that it runs in.
-/

namespace Tether

variable {τ : Type}

namespace Launch

def loggerName : String := "cpu.launcher"

def term : String := "ansi"

def defaultWindow : Int × Int := (80, 40)

/-- Echo is the local terminal's part. -/
def modes : List (Int × Int) :=
  [(Pty.echo, 0), (Pty.inputSpeed, 14400), (Pty.outputSpeed, 14400)]

def flag (name : String) : Option String → List String
  | some value => [name, value]
  | none => []

def words (o : ClientOptions) (args : String) (port : Option String) : List String :=
  [o.bin, "-remote", "-bin", o.bin] ++ flag "-port9p" port ++
    flag "-mountopts" (if o.mountopts = "" then none else some o.mountopts) ++
    flag "-msize" (if o.msize = Options.defaultMsize then none else some s!"{o.msize}") ++
    (if args = "" then [] else [args])

/-- The command line that runs `args` on the remote side. -/
def command (o : ClientOptions) (args : String) (port : Option String) : String :=
  String.intercalate " " (words o args port)

def refusedText (name : String) (f : Failure) : String :=
  s!"Warning: setenv({Text.quoted name}): {f.text}"

/-- Sets variables one after the other, and counts those that are refused. -/
def propagate (setenv : String → String → Act τ Unit) : Environment → Act τ Nat
  | [] => return 0
  | (name, value) :: r => do
    let failed ← tryCatch (do setenv name value; return 0) fun f => do
      Act.log loggerName .warning (refusedText name f)
      return 1
    return failed + (← propagate setenv r)

/-- The number that a variable holds, if it is positive. -/
def positive? (env : Environment) (name : String) : Option Int :=
  match env.get? name with
  | none => none
  | some s => (Text.readInt s).toOption.filter (0 < ·)

/-- The size of the local window: what the environment says, else the terminal. -/
def sizeIn (s : Surroundings τ) : Int × Int :=
  let measured (side : Int × Int → Int) (standard : Int) : Int :=
    match s.window with
    | some w => if side w = 0 then standard else side w
    | none => standard
  ((positive? s.environment "COLUMNS").getD (measured (·.1) defaultWindow.1),
    (positive? s.environment "LINES").getD (measured (·.2) defaultWindow.2))

def windowSize : Act τ (Int × Int) := do return sizeIn (← get)

/-- Sets the environment, asks for a terminal and starts the command. -/
def begin (exec : ExecSession τ) (command : String) (env : Environment) : Act τ Unit := do
  let _ ← propagate exec.setenv env
  let (width, height) ← windowSize
  exec.requestPty term width height modes
  Act.log loggerName .debug s!"Start remote with command {Text.quoted command}"
  exec.start command

end Launch

/-- Starts a command in a new interactive session, which is closed again if that fails. -/
def launch (newExec : Act τ (ExecSession τ)) (command : String) (env : Environment) :
    Act τ (ExecSession τ) := do
  let exec ← newExec
  tryCatch (Launch.begin exec command env) fun f => do
    exec.close
    throw f
  return exec

end Tether
