import Tether.Keys.Der
import Tether.Keys.Rsa

/-! # Private keys in tagged form

The forms in which the older key files keep a private key: the plain form of
each algorithm, a wrapper that names the algorithm, and a protected wrapper. The
forms are tried in turn as long as the structure of the data is not theirs.
-/

namespace Tether.Keys

/-- A private key, and what it is called where its kind does not fit. -/
inductive Encoded
  | rsa (numbers : RsaNumbers)
  | ecdsa (curve : Curve.Nist) (x y : Nat)
  | other (label : String)
  deriving DecidableEq, Repr

/-- Why data hold no private key. -/
inductive EncodedFault
  | structure (f : Der.Fault)
  | invalid
  | secretLength
  | spelledOut
  | unknownCurve (identifier : Bytes)
  | unknownAlgorithm (identifier : Bytes)
  | locked
  | numbers (f : RsaFault)
  deriving DecidableEq, Repr

/-- How a fault is reported; `reports` is where the library wants odd keys to be reported. -/
def EncodedFault.text (reports : String) : EncodedFault → String
  | .structure f =>
    "Could not deserialize key data. The data may be in an incorrect format, it may be " ++
      "encrypted with an unsupported algorithm, or it may be an unsupported key type (e.g. EC " ++
      s!"curves with explicit parameters). Details: ASN.1 parsing error: {f.text}"
  | .invalid => "Invalid key"
  | .secretLength =>
    "EC private key is not encoded properly: private key value is too short. Please file an issue " ++
      s!"at {reports} explaining how your private key was created."
  | .spelledOut => "ECDSA keys with explicit parameters are unsupported at this time"
  | .unknownCurve i => s!"Curve {Der.identifierText i} is not supported"
  | .unknownAlgorithm i => s!"Unknown key type: {Der.identifierText i}"
  | .locked => "Password was not given but private key is encrypted"
  | .numbers f => f.text

namespace Encoded

def labelBase : String := "cryptography.hazmat.bindings._rust.openssl."

/-- What a key is called: at most fifty characters of the name of its class. -/
def label : Encoded → String
  | .rsa _ => labelBase ++ "rsa.RSA"
  | .ecdsa _ _ _ => labelBase ++ "ec.ECPr"
  | .other l => String.ofList ((labelBase ++ l).toList.take 50)

abbrev Reading := Except EncodedFault

def structured {α : Type} (s : Der.Scan α) (bs : Bytes) : Reading α :=
  (Der.whole s bs).mapError .structure

/-- An RSA key in its plain form: a version, the numbers, and perhaps further primes, which
do not count. -/
def rsaScan : Der.Scan (Nat × RsaNumbers) :=
  Der.inside .sequence do
    let version ← Der.small
    let n ← Der.natural
    let e ← Der.natural
    let d ← Der.natural
    let p ← Der.natural
    let q ← Der.natural
    let dp ← Der.natural
    let dq ← Der.natural
    let inverse ← Der.natural
    let _ ← Der.value? .sequence
    return (version, { n, e, d, p, q, dp, dq, inverse })

def readRsa (bs : Bytes) : Reading Encoded := do
  let (version, numbers) ← structured rsaScan bs
  if version = 0 then return .rsa numbers else .error .invalid

def readDsa (bs : Bytes) : Reading Encoded := do
  let version ← structured (Der.inside .sequence do
    let version ← Der.small
    let _ ← Der.natural
    let _ ← Der.natural
    let _ ← Der.natural
    let _ ← Der.natural
    let _ ← Der.natural
    return version) bs
  if version = 0 then return .other "dsa.DSAPrivateKey" else .error .invalid

/-- The curve of a key: a known one by its identifier, none, or one that is spelled out. -/
inductive Parameters
  | named (identifier : Bytes)
  | none
  | spelled (contents : Bytes)
  deriving DecidableEq, Repr

def parametersScan : Der.Scan Parameters := do
  match ← Der.value? .null with
  | some v => if v = [] then return .none else throw .invalidLength
  | none => match ← Der.value? .sequence with
    | some v => return .spelled v
    | none => return .named (← Der.identifier)

def curveIdentifiers : List (Bytes × Curve.Nist) :=
  [([0x2a, 0x86, 0x48, 0xce, 0x3d, 0x03, 0x01, 0x07], .p256),
    ([0x2b, 0x81, 0x04, 0x00, 0x22], .p384), ([0x2b, 0x81, 0x04, 0x00, 0x23], .p521)]

def primeField : Bytes := [0x2a, 0x86, 0x48, 0xce, 0x3d, 0x01, 0x01]

/-- What spells a curve out: the prime, the coefficients, the base point, the number of
points and the cofactor. -/
structure Spelling where
  prime : Nat
  a : Nat
  b : Nat
  base : Bytes
  order : Nat
  cofactor : Nat
  deriving DecidableEq, Repr

def spellingScan : Der.Scan Spelling := do
  let version ← Der.small
  let prime ← Der.inside .sequence do
    let field ← Der.identifier
    if field ≠ primeField then throw .invalidValue
    Der.natural
  let (a, b) ← Der.inside .sequence do
    let a ← Der.value .octets
    let b ← Der.value .octets
    let _ ← Der.value? .bits
    return (Bytes.toNat a, Bytes.toNat b)
  let base ← Der.value .octets
  let order ← Der.natural
  let cofactor ← Der.small
  if version ≠ 1 then throw .invalidValue
  return { prime, a, b, base, order, cofactor }

def spellingOf (c : Curve.Nist) : Spelling :=
  { prime := c.prime, a := c.prime - 3, b := c.coefficient
    base := c.pointBytes c.base.1 c.base.2, order := c.order, cofactor := 1 }

def curveOf : Parameters → Reading Curve.Nist
  | .named i => match curveIdentifiers.lookup i with
    | some c => .ok c
    | none => .error (.unknownCurve i)
  | .none => .error .spelledOut
  | .spelled contents =>
    match Der.whole spellingScan contents with
    | .error _ => .error .spelledOut
    | .ok s => match Curve.Nist.all.find? fun c => spellingOf c == s with
      | some c => .ok c
      | none => .error .spelledOut

/-- An ECDSA key in its plain form: a version, the secret, and perhaps the curve and the
public point. -/
def ecdsaScan : Der.Scan (Nat × Bytes × Option Parameters × Option Bytes) :=
  Der.inside .sequence do
    let version ← Der.small
    let secret ← Der.value .octets
    let parameters ← Der.inside? (.wrapper 0) parametersScan
    let point ← Der.inside? (.wrapper 1) Der.bitBytes
    return (version, secret, parameters, point)

/-- Reads an ECDSA key, given the curve that stands in front of it. -/
def readEcdsa (outer : Option Parameters) (bs : Bytes) : Reading Encoded := do
  let (version, secret, inner, point) ← structured ecdsaScan bs
  if version ≠ 1 then .error .invalid
  match outer, inner with
  | none, none => .error .invalid
  | some a, some b => if a ≠ b then .error .invalid
  | _, _ => pure ()
  let c ← curveOf ((outer <|> inner).getD .none)
  if secret.length ≠ c.size then .error .secretLength
  match c.publicPoint? (Bytes.toNat secret) with
  | none => .error .invalid
  | some (x, y) =>
    match point with
    | none => return .ecdsa c x y
    | some bs => if c.anyPoint? bs = some (x, y) then return .ecdsa c x y else .error .invalid

def rsaIdentifier : Bytes := [0x2a, 0x86, 0x48, 0x86, 0xf7, 0x0d, 0x01, 0x01, 0x01]
def pssIdentifier : Bytes := [0x2a, 0x86, 0x48, 0x86, 0xf7, 0x0d, 0x01, 0x01, 0x0a]
def ecdsaIdentifier : Bytes := [0x2a, 0x86, 0x48, 0xce, 0x3d, 0x02, 0x01]
def dsaIdentifier : Bytes := [0x2a, 0x86, 0x48, 0xce, 0x38, 0x04, 0x01]

/-- The algorithms whose keys are strings of one length, with the length and the label. -/
def stringAlgorithms : List (Bytes × Nat × String) :=
  [([0x2b, 0x65, 0x6e], 32, "x25519.X25519PrivateKey"),
    ([0x2b, 0x65, 0x6f], 56, "x448.X448PrivateKey"),
    ([0x2b, 0x65, 0x70], 32, "ed25519.Ed25519PrivateKey"),
    ([0x2b, 0x65, 0x71], 57, "ed448.Ed448PrivateKey")]

/-- An algorithm, with its parameters as far as they count. -/
inductive Algorithm
  | rsa
  | ecdsa (p : Parameters)
  | dsa
  | string (size : Nat) (label : String)
  | unknown (identifier : Bytes)
  deriving DecidableEq, Repr

def skipAny : Der.Scan Unit := do
  if (← get) ≠ [] then
    let _ ← Der.tag
    let _ ← Der.take (← Der.length)

def algorithmScan : Der.Scan Algorithm :=
  Der.inside .sequence do
    let i ← Der.identifier
    if i = rsaIdentifier then
      match ← Der.value? .null with
      | some (_ :: _) => throw .invalidLength
      | _ => return .rsa
    else if i = pssIdentifier then
      let _ ← Der.value? .sequence
      return .rsa
    else if i = ecdsaIdentifier then return .ecdsa (← parametersScan)
    else if i = dsaIdentifier then
      let _ ← Der.inside .sequence do
        let _ ← Der.natural
        let _ ← Der.natural
        Der.natural
      return .dsa
    else match stringAlgorithms.lookup i with
      | some (size, label) => return .string size label
      | none =>
        skipAny
        return .unknown i

def wrappedScan : Der.Scan (Nat × Algorithm × Bytes) :=
  Der.inside .sequence do
    let version ← Der.small
    let algorithm ← algorithmScan
    let key ← Der.value .octets
    let _ ← Der.value? (.wrapper 0)
    return (version, algorithm, key)

def readWrapped (bs : Bytes) : Reading Encoded := do
  let (version, algorithm, key) ← structured wrappedScan bs
  if version ≠ 0 then .error .invalid
  match algorithm with
  | .rsa => readRsa key
  | .ecdsa p => readEcdsa (some p) key
  | .dsa =>
    let _ ← structured Der.natural key
    return .other "dsa.DSAPrivateKey"
  | .string size label =>
    let secret ← structured (Der.value .octets) key
    if secret.length = size then return .other label else .error .invalid
  | .unknown i => .error (.unknownAlgorithm i)

/-- Data in the protected wrapper need a passphrase, which is never at hand here. -/
def readProtected (bs : Bytes) : Reading Encoded := do
  let _ ← structured (Der.inside .sequence do
    let _ ← algorithmScan
    Der.value .octets) bs
  .error .locked

/-- Tries another form if the structure of the data is not that of the first. -/
def orForm (a b : Reading Encoded) : Reading Encoded :=
  match a with
  | .error (.structure _) => b
  | r => r

def ofBytes (bs : Bytes) : Reading Encoded := do
  let key ← orForm (readWrapped bs) <| orForm (readEcdsa none bs) <| orForm (readRsa bs) <|
    orForm (readDsa bs) (readProtected bs)
  match key with
  | .rsa numbers => (numbers.check.map .rsa).mapError .numbers
  | k => return k

end Encoded

end Tether.Keys
