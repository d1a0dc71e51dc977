import Tether.Namespace.Tunnel
import Tether.Remote.Channel
import Tether.Text.Number

/-! # Sessions

An authenticated connection to one host: commands that run to their end,
interactive commands, and listeners on the remote side.
-/

namespace Tether

variable {τ : Type}

structure Session where
  host : String
  port : Nat
  deriving DecidableEq, Repr

/-- An interactive command and what can be asked of it. -/
structure ExecSession (τ : Type) where
  setenv : String → String → Act τ Unit
  requestPty : String → Int → Int → List (Int × Int) → Act τ Unit
  start : String → Act τ Unit
  resize : Int → Int → Act τ Unit
  wait : Act τ Unit
  close : Act τ Unit
  index : Nat

def ExecSession.onChannel (i : Nat) : ExecSession τ where
  setenv := Remote.setenv i
  requestPty := Remote.requestPty i
  start := Remote.start i
  resize := Remote.resize i
  wait := Remote.wait i
  close := Remote.close i
  index := i

namespace Session

def loggerName : String := "cpu.transport"

def ensureOpen (s : Session) : Act τ Unit := do
  let c := (← get).connection
  if !c.present || !c.active then throw (.trouble (.closed s.host))

def openChannel (s : Session) : Act τ Nat := do
  tryCatch (do
      s.ensureOpen
      let c := (← get).connection
      let i := c.channels.length
      Act.emit (.openChannel i)
      modify fun w => { w with
        connection := { w.connection with channels := w.connection.channels ++ [c.script i] } }
      Act.failIf (c.script i).refused
      return i)
    fun f => throw (if f.isSsh then .trouble (.noSession f.text) else f)

/-- Runs a command to its end and returns its output. The channel is closed in any case. -/
def run (s : Session) (command : String) : Act τ Bytes := do
  let i ← s.openChannel
  let (bytes, status) ← try
      tryCatch (do
          Remote.call i (.exec command) (← Remote.channel i).faults.exec
          let bytes ← Remote.output i
          return (bytes, ← Remote.exitStatus i))
        fun f =>
          throw (if f.isSsh || f.isSystem then .trouble (.notRun command f.text) else f)
    finally Remote.close i
  if status ≠ 0 then throw (.remoteCommand (.ran command) status)
  return bytes

def newExec (s : Session) : Act τ (ExecSession τ) := do
  return .onChannel (← s.openChannel)

/-- Gives a forwarded port back, once. A failure of the connection is logged only. -/
def closeForwarding (k : Nat) : Act τ Unit := do
  let c := (← get).connection
  match c.forwardings[k]? with
  | none => pure ()
  | some f =>
    if !f.closed then
      modify fun w => { w with connection := { w.connection with
        forwardings := w.connection.forwardings.modify k fun f => { f with closed := true } } }
      Act.emit (.cancelForward f.host f.port)
      match c.cancel with
      | none => pure ()
      | some e =>
        if e.isSsh || e.isSystem then
          Act.log loggerName .debug s!"cancel forward {f.host}:{f.port}: {e.text}"
        else throw e

/-- Asks the remote host to listen on an address; port 0 leaves the choice to it. -/
def listen (s : Session) (address : String) : Act τ (Listener τ) := do
  match Tunnel.splitAddress? address with
  | none => throw (.tunnel (.badAddress address))
  | some (host, port) =>
    s.ensureOpen
    match Text.readInt port with
    | .error f => throw (.outside .value f.text)
    | .ok n =>
      Act.emit (.requestForward host n.toNat)
      let c := (← get).connection
      match c.forward with
      | .error f => throw (if f.isSsh then .tunnel (.refused address f.text) else f)
      | .ok allocated =>
        modify fun w => { w with connection := { w.connection with
          forwardings := w.connection.forwardings ++ [{ host, port := allocated }] } }
        return {
          address := s!"{host}:{allocated}"
          arrivals := c.arrivals
          close := closeForwarding c.forwardings.length }

/-- The arrivals that a wait leaves: one that takes longer than the limit comes nearer. -/
def arrivalsAfter [Time τ] (limit : Option τ) : List (Arrival τ) → List (Arrival τ)
  | [] => []
  | a :: r =>
    if a.isMissed limit then { a with delay := a.delay - limit.getD 0 } :: r else r

/-- Waits for a connection to a forwarded port. There is none once it was given back. -/
def acceptForwarded [Time τ] (k : Nat) (limit : Option τ) : Act τ (Option (Peer τ)) := do
  let c := (← get).connection
  if (c.forwardings[k]?.map (·.closed)).getD true then return none
  modify fun w => { w with
    connection := { w.connection with arrivals := arrivalsAfter limit c.arrivals } }
  accept limit c.arrivals

def close (_ : Session) : Act τ Unit := do
  Act.emit .closeClient
  Act.failIf (← get).connection.close

end Session

end Tether
