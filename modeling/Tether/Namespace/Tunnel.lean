import Tether.Namespace.Gate
import Tether.Text.Blank
import Tether.Text.Digit

/-! # The reverse tunnel

A listener on the remote host's own loopback interface, behind which the gate
runs. The remote command is told the listener's port.
-/

namespace Tether.Tunnel

variable {τ : Type}

def loggerName : String := "cpu.tunnel"

def loopback : String := "127.0.0.1"

/-- A host and the text of a port, if the part after the last colon consists of digits. -/
def splitAddress? (address : String) : Option (String × String) :=
  match Text.splitLast? ':' address.toList with
  | some (host, port) =>
    if port ≠ [] ∧ port.all Text.isDigit then some (String.ofList host, String.ofList port)
    else none
  | none => none

def parsePort (address : String) : Except Failure String :=
  match splitAddress? address with
  | some (_, port) => .ok port
  | none => .error (.tunnel (.noPort address))

/-- Opens the listener and starts the gate on it. The server is looked up if none is
given. -/
def negotiate [Time τ] (listen : String → Act τ (Listener τ)) (root : Path) (nonce : Nonce)
    (deadline : τ) (share : Option (FileShare τ)) (requested : Int) : Act τ String := do
  let listener ← listen s!"{loopback}:{requested}"
  let port ← tryCatch (Act.lift (parsePort listener.address)) fun f => do
    listener.close
    throw f
  Act.log loggerName .debug s!"reverse listener {listener.address} port {port}"
  let share ← match share with
    | some s => pure s
    | none => FileShare.find none
  let gate : Gate τ := { share, root, nonce, deadline }
  Act.thread "cpu-namespace" do
    let _ ← gate.run listener
  return port

end Tether.Tunnel
