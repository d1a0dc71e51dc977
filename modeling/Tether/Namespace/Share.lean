import Tether.Surroundings.Basic

/-! # File-share servers

The server that exports a directory over a connection. Servers are installed
under names; where none is installed under the name that is asked for, nothing
is exported.
-/

namespace Tether

variable {τ : Type}

def gateLogName : String := gateLogger

def Peer.close (p : Peer τ) : Act τ Unit := Act.emit (.closePeer p.name)

def Peer.setTimeout (p : Peer τ) (span : Option τ) : Act τ (Peer τ) := do
  Act.emit (.setTimeout p.name span)
  return { p with timeout := span }

/-- Whether a delay is longer than a wait that may have a limit. -/
def outlasts [Time τ] (delay : τ) (limit : Option τ) : Bool :=
  match limit with
  | some t => t < delay
  | none => false

/-- Whether a read with a limit ends without the step. -/
def PeerStep.isMissed [Time τ] (s : PeerStep τ) (limit : Option τ) : Bool :=
  !s.late && outlasts s.delay limit

/-- Whether a wait with a limit ends without the arrival. -/
def Arrival.isMissed [Time τ] (a : Arrival τ) (limit : Option τ) : Bool :=
  !a.late && outlasts a.delay limit

/-- Reads at most `n` bytes from a connection; the rest of what was sent comes next. -/
def Peer.receive [Time τ] (p : Peer τ) (n : Nat) : Act τ (Bytes × Peer τ) := do
  Act.emit (.receive p.name n)
  match p.steps with
  | [] => return ([], p)
  | step :: rest =>
    if step.isMissed p.timeout then
      Act.wait (p.timeout.getD 0)
      throw (.outside .timeout "timed out")
    Act.wait step.delay
    match step.act with
    | .fail f => throw f
    | .send bs =>
      if n < bs.length then
        return (bs.take n, { p with steps := { delay := 0, act := .send (bs.drop n) } :: rest })
      else return (bs, { p with steps := rest })

namespace FileShare

/-- The variable that names the server to use, and the name without it. -/
def variableName : String := "CPU_FILESHARE"
def defaultName : String := "9p"

def missingText (name : String) (root : Path) : String :=
  s!"No {Text.quoted name} file-share server is installed; {root} is not exported"

def serve [Time τ] (s : FileShare τ) (p : Peer τ) (root : Path) : Act τ Unit :=
  match s with
  | .missing name => do
    Act.log gateLogName .warning (missingText name root)
    p.close
  | .installed label react => do
    Act.emit (.serve label p.name root)
    let visit := (← get).served
    modify fun s => { s with served := visit + 1 }
    let reaction := react visit p
    match reaction.read with
    | some n =>
      let (bs, _) ← p.receive n
      Act.emit (.served p.name bs)
    | none => pure ()
    Act.failIf reaction.failure

def firstGiven : List (Option String) → Option String
  | [] => none
  | some s :: r => if s = "" then firstGiven r else some s
  | none :: r => firstGiven r

/-- Finds the server of a name, which the environment may supply. -/
def find (name : Option String) : Act τ (FileShare τ) := do
  let s ← get
  let name := (firstGiven [name, s.environment.get? variableName]).getD defaultName
  Act.emit .findShares
  match s.shares.find? fun e => e.name == name with
  | none => return .missing name
  | some e =>
    Act.log gateLogName .debug s!"file-share server {Text.quoted name} from {e.value}"
    Act.emit (.loadShare e.value)
    Act.failIf e.failure
    return .installed e.value (reactInTurn e.reactions)

end FileShare

end Tether
