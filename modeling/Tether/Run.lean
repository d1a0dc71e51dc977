import Tether.Connect.Login
import Tether.Launch
import Tether.Terminal.Mode
import Tether.Terminal.Multiplexer

/-! # Running a remote command

One invocation from the terminal to the exit status. The terminal gets its mode
back on every path, after the remote command has ended and before the status is
handed back.
-/

namespace Tether.Run

variable {τ : Type}

def loggerName : String := "cpu.session"

def lastWord? (cs : List Char) : Option (List Char) := (Text.words cs).getLast?

def findServer (run : String → Act τ Bytes) : Act τ String := do
  let output ← tryCatch (run s!"command -v {serverName}") fun
    | .remoteCommand r s => throw (.configuration (.noServer (some (r.text s))))
    | f => throw f
  match lastWord? (Utf8.decodeLossy output) with
  | some w => return String.ofList w
  | none => throw (.configuration (.noServer none))

/-- Tells the remote side the new size of the window. A failure is logged only. -/
def forwardSize (resize : Int → Int → Act τ Unit) : Act τ Unit := do
  let (width, height) ← Launch.windowSize
  tryCatch (resize width height) fun f => Act.log loggerName .debug s!"resize: {f.text}"

def windowChanged (resize : Int → Int → Act τ Unit) : Act τ Unit := do
  if (← get).signals.handler = .forwarding then forwardSize resize

def setHandler (h : ResizeHandler) : Act τ Unit := do
  Act.emit (.handler h)
  modify fun s => { s with signals := { s.signals with handler := h } }

/-- Runs an action while changes of the window are forwarded, where there is a window. -/
def forwardingResizes {α : Type} (isTty : Bool) (a : Act τ α) : Act τ α := do
  let signals := (← get).signals
  if !isTty || !signals.supported || !signals.mainThread then a
  else
    setHandler .forwarding
    try a finally setHandler signals.handler

/-- Runs the relays between the local streams and a channel. -/
def relay (i : Nat) : Act τ Unit := do
  let s ← get
  let ch ← Remote.channel i
  let (endings, m) := Multiplexer.run {
    stdin := s.stdin, remoteOut := ch.stdout, remoteError := ch.stderr
    remote := ch.stdin, stdout := s.stdout, stderr := s.stderr }
  modify fun s => { s with
    stdin := m.stdin, stdout := m.stdout, stderr := m.stderr
    threads := s.threads ++ Multiplexer.failures endings }
  Remote.changeChannel i fun ch => { ch with
    stdin := m.remote, stdout := m.remoteOut, stderr := m.remoteError }

/-- What an invocation is given from outside. -/
structure Means (τ : Type) where
  connect : ClientOptions → Act τ Session
  makeNonce : Act τ Nonce
  share : Option (FileShare τ) := none
  /-- The environment that goes to the remote command. -/
  environment : Environment

/-- The options with the server side found, if they leave it open. -/
def withServer (session : Session) (o : ClientOptions) : Act τ ClientOptions := do
  if o.bin = "" then return { o with bin := ← findServer session.run } else return o

/-- Opens the tunnel: the port for the remote command, and the variables that go with it. -/
def openTunnel (m : Means Float) (session : Session) (o : ClientOptions) :
    Act Float (Option String × Environment) := do
  if namespaceEnabled m.environment then
    let nonce ← m.makeNonce
    let port ← Tunnel.negotiate session.listen o.root nonce o.timeout9p m.share o.port9p
    return (some port, [(Nonce.variableName, nonce.value)])
  else
    Act.log loggerName .debug "namespace export disabled"
    return (none, [])

def inSession (m : Means Float) (session : Session) (o : ClientOptions) (args : String) :
    Act Float Unit := do
  let o ← withServer session o
  let (port, extra) ← openTunnel m session o
  let command := Launch.command o args port
  Act.log loggerName .debug s!"command is {Text.quoted command}"
  let exec ← launch session.newExec command (m.environment ++ extra)
  try
    relay exec.index
    forwardingResizes (← get).tty.isTty exec.wait
  finally exec.close

/-- The status of a failure that ends a run; other failures go on. -/
def statusOf (f : Failure) : Act τ Int := do
  match f with
  | .remoteCommand _ status =>
    Act.log loggerName .error s!"SSH error {f.text}"
    return status
  | f =>
    if f.isClient || f.isRandom then
      Act.log loggerName .error s!"SSH error {f.text}"
      return exitFailure
    else throw f

/-- What is run remotely: the command, or the local shell's name. -/
def arguments (o : ClientOptions) (env : Environment) : String :=
  if o.command = "" then (env.get? "SHELL").getD "" else o.command

/-- Runs one invocation and returns its exit status. -/
def client (m : Means Float) (o : ClientOptions) : Act Float Int := do
  let _ ← Terminal.capture
  let connected : Except Failure Session ←
    tryCatch (do return .ok (← m.connect o)) fun f => return .error f
  match connected with
  | .error f => try statusOf f finally Terminal.restore
  | .ok session =>
    try
      tryCatch
        (do
          Terminal.raw (inSession m session o (arguments o m.environment))
          return 0)
        statusOf
    finally
      Terminal.restore
      session.close

end Tether.Run
