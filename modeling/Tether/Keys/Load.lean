import Tether.Keys.HostKey
import Tether.Keys.Private
import Tether.Options.Basic
import Tether.Surroundings.Files
import Tether.Failure

/-! # Loading keys from files

A key is loaded, or there is one failure that names the path. Paths may begin
with a tilde.
-/

namespace Tether.Keys

def homeOf (fs : Files) (env : Environment) (component : String) : Option String :=
  match component.toList.drop 1, env.get? "HOME" with
  | [], some home => some home
  | user, _ => fs.homes.lookup (String.ofList user)

def homeText (s : String) : String :=
  let bare := String.ofList ((s.toList.reverse.dropWhile (· = '/')).reverse)
  if bare = "" then "/" else bare

/-- Replaces a tilde at the head of a path by the home directory. -/
def expandHome (fs : Files) (env : Environment) (p : Path) : Except Failure Path :=
  match p.isAbsolute, p.parts with
  | false, c :: r =>
    if c.toList.head? ≠ some '~' then .ok p
    else if c.toList.contains '\x00' then .error .pathWithNul
    else
      match homeOf fs env c with
      | none => .error .unknownUser
      | some home =>
        if home.toList.head? = some '~' then .error .unknownUser
        else .ok ((Path.ofString (homeText home)).join { parts := r })
  | _, _ => .ok p

def hasNul (p : Path) : Bool := p.toString.toList.contains '\x00'

def keyFailure (p : Path) (text : String) : Failure :=
  .key { path := p.toString, text := text }

/-- Loads an identity key from a path without a tilde. -/
def loadPrivateAt (fs : Files) (path : Path) (passphrase : Option String) :
    Except Failure PublicKey := do
  let missing := keyFailure path s!"unable to read private key {path}: no such file"
  if hasNul path then throw missing
  match fs.node path with
  | .tooLong => throw .pathTooLong
  | .barred => throw (.outside (.numbered 13) (OpenFault.denied.text path))
  | .file _ =>
    match fs.read path with
    | .error f =>
      throw (keyFailure path s!"unable to read private key {path}: {f.text path}")
    | .ok content =>
      match parsePrivate fs.reports content passphrase with
      | .ok key => return key
      | .error none =>
        throw (.key { path := path.toString, encrypted := true
                      text := s!"private key {path} is encrypted" })
      | .error (some said) =>
        let said := String.intercalate "; " said
        throw (keyFailure path s!"parse private key {path}: {said}")
  | _ => throw missing

def loadPrivate (fs : Files) (env : Environment) (path : Path) (passphrase : Option String) :
    Except Failure PublicKey := do
  loadPrivateAt fs (← expandHome fs env path) passphrase

def loadHostAt (fs : Files) (path : Path) : Except Failure PublicKey := do
  if hasNul path then throw .pathWithNul
  match fs.read path with
  | .error f => throw (keyFailure path s!"unable to read host key {path}: {f.text path}")
  | .ok content =>
    match HostKey.parse content with
    | .ok key => return key
    | .error f => throw (keyFailure path s!"parse host key {path}: {f.text}")

def loadHost (fs : Files) (env : Environment) (path : Path) : Except Failure PublicKey := do
  loadHostAt fs (← expandHome fs env path)

end Tether.Keys
