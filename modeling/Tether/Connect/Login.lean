import Tether.Connect.Dial
import Tether.Connect.Trust
import Tether.Remote.Session

/-! # Logging in

From options to a session: the identity, the trusted keys, the socket and the
authentication, in this order and each of them once.
-/

namespace Tether.Connect

variable {τ : Type}

def presentUnknown (policy : UnknownKeyPolicy) (host : String) (key : PublicKey) : Act τ Unit :=
  match policy with
  | .reject => throw (.outside .ssh s!"Server {Text.quoted host} not found in known_hosts")
  | .accept =>
    let digest := Hex.encode key.fingerprint
    Act.log loggerName .warning
      (s!"Accepting unverified {key.typeName} host key for {host} (md5 {digest})")

def login (o : ClientOptions) (key : PublicKey) (t : Trust) (a : Address) : Act τ Unit := do
  Act.emit (.authenticate o.host o.port o.user key.blob a.name)
  let s ← get
  match s.presented with
  | some presented => presentUnknown t.unknown o.host presented
  | none => pure ()
  Act.failIf s.login

/-- How long a connection may take, in seconds. -/
def dialTimeout [Time τ] : τ := Time.seconds 30

/-- Opens a session. A failure of the connection closes everything that was opened. -/
def session [Time τ] (o : ClientOptions) (prompt : Option (Path → Act τ String)) :
    Act τ Session := do
  let key ← loadIdentity o.keyFile prompt
  let t ← trust o
  let a ← dial o.network o.host o.port dialTimeout
  tryCatch (login o key t a) fun f => do
    if f.isSsh || f.isSystem then
      Act.emit .closeClient
      socketCall a .close
      throw (.dial o.host o.port f.text)
    else throw f
  Act.log loggerName .debug s!"connected to {o.user}@{o.host}:{o.port}"
  return { host := o.host, port := o.port }

end Tether.Connect
