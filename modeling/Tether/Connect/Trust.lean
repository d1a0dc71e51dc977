import Tether.Keys.Load
import Tether.Surroundings.Basic

/-! # Identity and trust

The key that proves who we are, and the keys that we let the host prove itself
with. A pinned key is the only one that is known; without one the system's list
of known hosts decides, or nothing at all.
-/

namespace Tether.Connect

variable {τ : Type}

def loggerName : String := "cpu.transport"

def identity (path : Path) (passphrase : Option String) : Act τ PublicKey := do
  let s ← get
  Act.lift (Keys.loadPrivate s.files s.environment path passphrase)

def blameIdentity : Failure → Failure
  | .key k => .configuration (.identity k.text)
  | f => f

/-- Loads the identity; the user is asked once, if the key is encrypted. -/
def loadIdentity (path : Path) (prompt : Option (Path → Act τ String)) : Act τ PublicKey :=
  tryCatch (identity path none) fun f =>
    match f, prompt with
    | .key ⟨_, _, true⟩, some ask =>
      tryCatch (do
        let passphrase ← ask path
        identity path (some passphrase)) fun f => throw (blameIdentity f)
    | f, _ => throw (blameIdentity f)

def knownName (host : String) (port : Nat) : String :=
  if port = 22 then host else s!"[{host}]:{port}"

/-- What decides about the key that the server presents. -/
structure Trust where
  pinned : Option (String × PublicKey) := none
  system : Bool := false
  unknown : UnknownKeyPolicy := .reject
  deriving DecidableEq, Repr

/-- Whether a server's key is accepted, given what the system knows. -/
def Trust.accepts (t : Trust) (known : List (String × PublicKey)) (name : String)
    (key : PublicKey) : Bool :=
  let candidates := (t.pinned.toList ++ (if t.system then known else [])).filter (·.1 = name)
  if candidates = [] then t.unknown = .accept else candidates.any (·.2 = key)

def trust (o : ClientOptions) : Act τ Trust := do
  match o.hostKeyFile with
  | some path =>
    let s ← get
    let key ← tryCatch (Act.lift (Keys.loadHost s.files s.environment path)) fun
      | .key k => throw (.configuration (.hostKey k.text))
      | f => throw f
    let name := knownName o.host o.port
    Act.emit (.addHostKey name key.typeName key.blob)
    Act.emit (.policy .reject)
    return { pinned := some (name, key) }
  | none =>
    if o.insecure then
      Act.log loggerName .warning "Host key verification is disabled (-insecure)"
      Act.emit (.policy .accept)
      return { unknown := .accept }
    else
      Act.emit .systemHostKeys
      Act.emit (.policy .reject)
      return { system := true }

end Tether.Connect
