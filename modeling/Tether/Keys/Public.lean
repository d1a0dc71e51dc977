import Tether.Bytes.Wire
import Tether.Curve.Nist
import Tether.Digest.Md5
import Tether.Text.Quoted

/-! # Public keys

The keys that a host or a user is known by, and the blobs in which they travel.
-/

namespace Tether

inductive PublicKey
  | rsa (e n : Nat)
  | ed25519 (point : Bytes)
  | ecdsa (curve : Curve.Nist) (x y : Nat)
  deriving DecidableEq, Repr

/-- Why a blob is no key that is supported. -/
inductive KeyFault
  | unknownType (type : String) (size : Nat)
  /-- The blob of an RSA key that gives itself another type. -/
  | wrongType (type : Option String)
  | negative
  | smallModulus
  | exponentRange
  | evenExponent
  | keyLength
  | curveText (text : String)
  | wrongCurve (name : String)
  | invalidPoint
  /-- Nothing in a file describes itself as a key. -/
  | noKey
  deriving DecidableEq, Repr

namespace KeyFault

def text : KeyFault → String
  | .unknownType t n => s!"UnknownKeyType(type={Text.quoted t}, bytes=<{n}>)"
  | .wrongType t => "Invalid key (class: RSAKey, data type: " ++ t.getD ""
  | .negative => "can't convert negative int to unsigned"
  | .smallModulus => "n must be >= 3."
  | .exponentRange => "e must be >= 3 and < n."
  | .evenExponent => "e must be odd."
  | .keyLength => "The key must be exactly 32 bytes long"
  | .curveText t => t
  | .wrongCurve n => s!"Can't handle curve of type {n}"
  | .invalidPoint => "Invalid public key"
  | .noKey => "no public key found"

end KeyFault

namespace PublicKey

def ecdsaName (c : Curve.Nist) : String := "ecdsa-sha2-" ++ c.name

def typeName : PublicKey → String
  | .rsa _ _ => "ssh-rsa"
  | .ed25519 _ => "ssh-ed25519"
  | .ecdsa c _ _ => ecdsaName c

def bits : PublicKey → Nat
  | .rsa _ n => Bytes.bitLength n
  | .ed25519 _ => 256
  | .ecdsa c _ _ => c.bits

def blob (k : PublicKey) : Bytes :=
  Wire.putText k.typeName ++ match k with
    | .rsa e n => Wire.putNat e ++ Wire.putNat n
    | .ed25519 point => Wire.putString point
    | .ecdsa c x y => Wire.putText c.name ++ Wire.putString (c.pointBytes x y)

def fingerprint (k : PublicKey) : Bytes := Digest.Md5.digest k.blob

def ofNumbers (e n : Int) : Except KeyFault PublicKey :=
  if e < 0 ∨ n < 0 then .error .negative
  else if n < 3 then .error .smallModulus
  else if e < 3 ∨ e ≥ n then .error .exponentRange
  else if e % 2 = 0 then .error .evenExponent
  else .ok (.rsa e.toNat n.toNat)

def rsaCertificate : String := "ssh-rsa-cert-v01@openssh.com"

def rsaTypes : List String :=
  ["ssh-rsa", rsaCertificate, "rsa-sha2-256", "rsa-sha2-256-cert-v01@openssh.com",
    "rsa-sha2-512", "rsa-sha2-512-cert-v01@openssh.com"]

/-- Reads an RSA key, which a certificate puts behind a nonce. -/
def readRsa (blob : Bytes) : Except KeyFault PublicKey :=
  let (type, r) := Wire.text blob
  let type := type.toOption
  let numbers (r : Bytes) :=
    let (e, r) := Wire.integer r
    ofNumbers e (Wire.integer r).1
  if type = some "ssh-rsa" then numbers r
  else if type = some rsaCertificate then numbers (Wire.string r).2
  else .error (.wrongType type)

def readEd25519 (blob : Bytes) : Except KeyFault PublicKey :=
  let (point, _) := Wire.string (Wire.text blob).2
  if point.length = 32 then .ok (.ed25519 point) else .error .keyLength

/-- The curve that a text names, if it is `c`. -/
def checkCurve (c : Curve.Nist) (name : Bytes) : Except KeyFault Unit :=
  match Utf8.decode name with
  | .error m => .error (.curveText m.text)
  | .ok cs => if String.ofList cs = c.name then .ok () else .error (.wrongCurve (String.ofList cs))

def readEcdsa (c : Curve.Nist) (blob : Bytes) : Except KeyFault PublicKey := do
  let (name, r) := Wire.string (Wire.text blob).2
  checkCurve c name
  match c.point? (Wire.string r).1 with
  | some (x, y) => .ok (.ecdsa c x y)
  | none => .error .invalidPoint

/-- Reads the key of a blob, given the name of its type. -/
def ofBlob (type : String) (blob : Bytes) : Except KeyFault PublicKey :=
  if rsaTypes.contains type then readRsa blob
  else if type = "ssh-ed25519" then readEd25519 blob
  else match Curve.Nist.all.find? fun c => ecdsaName c == type with
    | some c => readEcdsa c blob
    | none => .error (.unknownType type blob.length)

end PublicKey

end Tether
