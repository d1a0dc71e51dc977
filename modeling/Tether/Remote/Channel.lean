import Tether.Remote.Pty
import Tether.Surroundings.Basic

/-! # Channels

A command on the remote host runs on a channel of its own. Each operation is
recorded and then succeeds or fails as the remote side decides.
-/

namespace Tether.Remote

variable {τ : Type}

def channel (i : Nat) : Act τ Channel := do
  return (← get).connection.channels[i]?.getD {}

def changeChannel (i : Nat) (f : Channel → Channel) : Act τ Unit :=
  modify fun s => { s with
    connection := { s.connection with channels := s.connection.channels.modify i f } }

/-- Makes a call on a channel, which may fail. -/
def call (i : Nat) (c : ChannelCall) (failure : Option Failure) : Act τ Unit := do
  Act.emit (.channel i c)
  Act.failIf failure

def setenv (i : Nat) (name value : String) : Act τ Unit := do
  call i (.setenv name value) ((← channel i).setenv name)

/-- Sends the request for a terminal and waits for the answer. A request with a number out
of its field is not sent. -/
def sendPtyRequest (i : Nat) (term : String) (width height : Int) (modes : List (Int × Int)) :
    Act τ Unit := do
  let ch ← channel i
  match Pty.request? ch.number term width height modes with
  | none => throw .outOfField
  | some message =>
    call i .eventPending ch.faults.eventPending
    Act.emit (.userMessage message)
    Act.failIf ch.faults.userMessage
    call i .waitForEvent ch.faults.waitForEvent

def requestPty (i : Nat) (term : String) (width height : Int) (modes : List (Int × Int)) :
    Act τ Unit :=
  tryCatch (sendPtyRequest i term width height modes) fun f =>
    throw (if f.isSsh then .trouble (.noTerminal f.text) else f)

def start (i : Nat) (command : String) : Act τ Unit := do
  changeChannel i fun ch => { ch with command := some command }
  tryCatch (do call i (.exec command) (← channel i).faults.exec) fun f =>
    throw (if f.isSsh then .trouble (.notRun command f.text) else f)

def resize (i : Nat) (width height : Int) : Act τ Unit := do
  call i (.resize width height) (← channel i).faults.resize

/-- The status that the remote side reports; -1 stands for none. -/
def exitStatus (i : Nat) : Act τ Int := do
  let ch ← channel i
  call i .exitStatus ch.faults.exitStatus
  return ch.status

/-- Waits until the command ends, and fails unless it succeeded. -/
def wait (i : Nat) : Act τ Unit := do
  let status ← exitStatus i
  if status = -1 then throw (.trouble (.noStatus (← channel i).command))
  if status ≠ 0 then throw (.remoteCommand .exited status)

def close (i : Nat) : Act τ Unit := do
  call i .close (← channel i).faults.close

def stdinCall (i : Nat) (c : Sink.Call) : Act τ Unit := do
  let (failure, stdin) := (← channel i).stdin.call c
  changeChannel i fun ch => { ch with stdin }
  Act.failIf failure

/-- Sends the end of the input, once. -/
def closeStdin (i : Nat) : Act τ Unit := do
  if !(← channel i).stdin.calls.contains .close then stdinCall i .close

def bytesOf : ReadResult → Act τ Bytes
  | .data bs => pure bs
  | .failure f => throw f
  | .blocked => pure []

def readStdout (i n : Nat) : Act τ Bytes := do
  let (result, rest) := (← channel i).stdout.read n
  changeChannel i fun ch => { ch with stdout := rest }
  bytesOf result

def readStderr (i n : Nat) : Act τ Bytes := do
  let (result, rest) := (← channel i).stderr.read n
  changeChannel i fun ch => { ch with stderr := rest }
  bytesOf result

def output (i : Nat) : Act τ Bytes := do
  call i .makeFile (← channel i).faults.makeFile
  let (result, rest) := (← channel i).stdout.readAll
  changeChannel i fun ch => { ch with stdout := rest }
  Act.lift result

end Tether.Remote
