import Tether.Options.Problem
import Tether.Text.Quoted

/-! # Failures

Why an operation failed. What the system, the connection or a library reports
comes from outside; the client adds failures of its own, in families that the
handlers tell apart.
-/

namespace Tether

def exitFailure : Int := 1

/-- The kinds of failure that reach the client from outside. -/
inductive Source
  | system
  /-- A system failure with its number. -/
  | numbered (n : Int)
  /-- A system failure too. -/
  | timeout
  | endOfFile
  | value
  | runtime
  | ssh
  deriving DecidableEq, Repr

inductive Trouble
  | closed (host : String)
  | noSession (reason : String)
  | notRun (command reason : String)
  | noTerminal (reason : String)
  /-- The command, if one was started, ended without a status. -/
  | noStatus (command : Option String)
  deriving DecidableEq, Repr

namespace Trouble

def text : Trouble → String
  | .closed host => s!"connection to {host} is closed"
  | .noSession r => s!"Failed to create session: {r}"
  | .notRun c r => s!"Failed to run {c}: {r}"
  | .noTerminal r => s!"request for pseudo terminal failed: {r}"
  | .noStatus c => c.getD "None" ++ ": remote command ended without an exit status"

end Trouble

def serverName : String := "cpud"

inductive Misconfiguration
  | options (problems : List Options.Problem)
  | identity (reason : String)
  | hostKey (reason : String)
  /-- The server side is not installed; the lookup may have failed with a reason. -/
  | noServer (reason : Option String)
  deriving DecidableEq, Repr

namespace Misconfiguration

def text : Misconfiguration → String
  | .options ps => Options.reportText ps
  | .identity r | .hostKey r => r
  | .noServer none => s!"{serverName} not found on remote PATH"
  | .noServer (some r) => s!"{serverName} not found on remote PATH: {r}"

def option : Misconfiguration → String
  | .options ps => Options.blamed ps
  | .identity _ => "key"
  | .hostKey _ => "hk"
  | .noServer _ => "bin"

end Misconfiguration

/-- What went wrong with the reverse tunnel. -/
inductive TunnelFault
  | badAddress (address : String)
  | refused (address reason : String)
  | noPort (address : String)
  | reported (text : String)
  deriving DecidableEq, Repr

def TunnelFault.text : TunnelFault → String
  | .badAddress a => s!"bad listen address {Text.quoted a}"
  | .refused a r => s!"remote listen on {a}: {r}"
  | .noPort a => s!"Can't find a port number in {a}"
  | .reported t => t

/-- How the unsuccessful status of a remote command became known. -/
inductive StatusReport
  | exited
  | ran (command : String)
  | reported (text : String)
  deriving DecidableEq, Repr

def StatusReport.text (status : Int) : StatusReport → String
  | .exited => s!"Process exited with status {status}"
  | .ran c => s!"Failed to run {c}: exit status {status}"
  | .reported t => t

def nonceBytes : Nat := 16

/-- What went wrong with the random source. -/
inductive RandomFault
  | failed (reason : String)
  | short (count : Nat)
  | reported (text : String)
  deriving DecidableEq, Repr

def RandomFault.text : RandomFault → String
  | .failed r => s!"Reading {nonceBytes} random bytes: {r}"
  | .short n => s!"Random source returned {n} bytes, wanted {nonceBytes}"
  | .reported t => t

/-- A key that cannot be loaded from a file. -/
structure KeyFailure where
  path : String
  text : String
  /-- The key is encrypted and no passphrase was given. -/
  encrypted : Bool := false
  deriving DecidableEq, Repr

inductive Failure
  | outside (source : Source) (text : String)
  /-- A nonce that holds a character outside ASCII. -/
  | unencodable
  /-- A number that does not fit its field of a request. -/
  | outOfField
  | unknownNetwork
  /-- A value of a shape that cannot be used at all. -/
  | unusable
  /-- A path that names the home of a user who is not known. -/
  | unknownUser
  | pathWithNul
  | pathTooLong
  | trouble (t : Trouble)
  | configuration (m : Misconfiguration)
  | dial (host : String) (port : Nat) (reason : String)
  | tunnel (f : TunnelFault)
  | remoteCommand (report : StatusReport) (status : Int)
  | random (f : RandomFault)
  | key (k : KeyFailure)
  deriving DecidableEq, Repr

namespace Failure

/-- What is said of a failure; some kinds carry no text that anyone sees. -/
def text : Failure → String
  | .outside _ t => t
  | .unencodable | .outOfField | .unknownNetwork | .unusable | .unknownUser | .pathWithNul
  | .pathTooLong => ""
  | .trouble t => t.text
  | .configuration m => m.text
  | .dial host port r => s!"Failed to dial {host}:{port}: {r}"
  | .tunnel f => f.text
  | .remoteCommand r s => r.text s
  | .random f => f.text
  | .key k => k.text

def isSystem : Failure → Bool
  | .outside .system _ | .outside (.numbered _) _ | .outside .timeout _ | .pathTooLong => true
  | _ => false

def isSsh : Failure → Bool
  | .outside .ssh _ => true
  | _ => false

def isEndOfFile : Failure → Bool
  | .outside .endOfFile _ => true
  | _ => false

def isValue : Failure → Bool
  | .outside .value _ | .unencodable | .pathWithNul => true
  | _ => false

/-- One of the client's own families, which end a run with a status. -/
def isClient : Failure → Bool
  | .trouble _ | .configuration _ | .dial _ _ _ | .tunnel _ | .remoteCommand _ _ => true
  | _ => false

def isRandom : Failure → Bool
  | .random _ => true
  | _ => false

end Failure

end Tether
