import Tether.Keys.Bundle
import Tether.Keys.Encoded

/-! # Private keys

Reading the identity key of a user. A file is tried for each kind of key in
turn; what is kept of a key is its public half. Odd keys are to be reported at
`reports`.
-/

namespace Tether.Keys

variable (reports : String)

/-- The key of one kind in tagged data. A key of another kind is no RSA key, and has no
curve. -/
def Kind.ofEncoded (k : Kind) (data : Bytes) : Attempt PublicKey :=
  match Encoded.ofBytes data with
  | .error f => refuse (f.text reports)
  | .ok key =>
    match k, key with
    | .rsa, .rsa numbers => .ok numbers.publicKey
    | .rsa, _ => refuse ""
    | _, .ecdsa c x y => .ok (.ecdsa c x y)
    | _, key => refuse s!"'{key.label}' object has no attribute 'curve'"

def Kind.read (k : Kind) (text : List Char) (passphrase : Option String) :
    Attempt PublicKey := do
  let lines := fileLines text
  if lines = [] then refuse s!"no lines in {k.tag} private key file"
  match extent? lines with
  | none => refuse s!"not a valid {k.tag} private key file"
  | some s =>
    match k with
    | .ed25519 =>
      if s.tag ≠ anyTag then refuse s!"encountered {s.tag} key, expected {k.tag} key"
      ed25519Key (← pemData lines s.stop none) passphrase
    | .ecdsa | .rsa =>
      if s.tag = k.tag then k.ofEncoded reports (← pemData lines s.stop passphrase)
      else if s.tag = anyTag then
        let data ← keyData (← fromBase64 ((lines.take s.stop).drop s.start)) passphrase
        if k = .rsa then rsaKey data else ecdsaKey data
      else refuse s!"encountered {s.tag} key, expected {k.tag} key"

/-- Tries the kinds in turn, and keeps what each of them says. A protected key ends the
search. -/
def tryKinds (text : List Char) (passphrase : Option String) :
    List Kind → List String → Except (Option (List String)) PublicKey
  | [], said => .error (some said)
  | k :: ks, said =>
    match k.read reports text passphrase with
    | .ok key => .ok key
    | .error .locked => .error none
    | .error (.because t) => tryKinds text passphrase ks (said ++ [s!"{k.label}: {t}"])

/-- Reads a private key file; the error is what each kind said of it, or nothing when the
key is protected and there is no passphrase. -/
def parsePrivate (data : Bytes) (passphrase : Option String) :
    Except (Option (List String)) PublicKey :=
  match Utf8.decodeBlocks [] data with
  | .ok text => tryKinds reports text passphrase Kind.all []
  | .error m => .error (some (Kind.all.map fun k => s!"{k.label}: {m.text}"))

end Tether.Keys
