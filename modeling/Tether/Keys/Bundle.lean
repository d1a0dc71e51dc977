import Tether.Curve.Edwards
import Tether.Digest.Bcrypt
import Tether.Keys.Armor
import Tether.Keys.Rsa

/-! # Key bundles

The newer form of private key files, which holds keys of any kind: how the body
is protected, the public keys, and the body with the private ones. Ed25519 keys
are read by a reader that fills what is missing with zeros, the others by one
that refuses a field that is cut short.
-/

namespace Tether.Keys

def magic : Bytes := Bytes.ofAscii "openssh-key-v1" ++ [0]

/-- Removes the padding `1, 2, 3, …`. Data that end in a printable character have none. -/
def unpad (bs : Bytes) : Attempt Bytes :=
  match bs.getLast? with
  | none => refuse "index out of range"
  | some last =>
    let n := last.toNat
    if 0x20 ≤ n ∧ n < 0x7f then .ok bs
    else if n > 15 then refuse "Invalid key"
    else if bs.length < n then refuse "index out of range"
    else if n = 0 then .ok []
    else if bs.drop (bs.length - n) = (List.range n).map fun i => UInt8.ofNat (i + 1) then
      .ok (bs.take (bs.length - n))
    else refuse "Invalid key"

/-! ## Protected bodies -/

/-- How the blocks of a body hang together. -/
inductive Mode
  | chained
  | counted
  /-- Counted, with a tag over the whole that has to be at hand. -/
  | sealed
  deriving DecidableEq, Repr

structure BodyCipher where
  name : String
  cipher : Bytes → Cipher.BlockCipher
  size : Nat
  block : Nat
  mode : Mode

def bodyCiphers : List BodyCipher :=
  let aes (name : String) (size : Nat) (mode : Mode) : BodyCipher :=
    ⟨name, Cipher.Aes.cipher, size, 16, mode⟩
  [aes "aes128-ctr" 16 .counted, aes "aes192-ctr" 24 .counted, aes "aes256-ctr" 32 .counted,
    aes "aes128-cbc" 16 .chained, aes "aes192-cbc" 24 .chained, aes "aes256-cbc" 32 .chained,
    ⟨"3des-cbc", Cipher.Des.triple, 24, 8, .chained⟩,
    aes "aes128-gcm@openssh.com" 16 .sealed, aes "aes256-gcm@openssh.com" 32 .sealed]

def derive (passphrase : String) (salt : Bytes) (size rounds : Nat) : Attempt Bytes :=
  if passphrase = "" ∨ salt = [] then refuse "password and salt must not be empty"
  else if rounds = 0 then refuse "rounds must be 1 or more"
  else .ok (Digest.Bcrypt.key (Utf8.encode passphrase) salt size rounds)

def BodyCipher.open (c : BodyCipher) (passphrase : String) (salt : Bytes) (rounds : Nat)
    (body : Bytes) : Attempt Bytes := do
  let k ← derive passphrase salt (c.size + c.block) rounds
  let cipher := c.cipher (k.take c.size)
  match c.mode with
  | .counted => return cipher.applyCounted (k.drop c.size) body
  | .sealed => refuse "Authentication tag must be provided when decrypting."
  | .chained =>
    if body.length % c.block ≠ 0 then refuse unevenText
    else return cipher.decryptChained (k.drop c.size) body

/-! ## Ed25519 keys -/

def ed25519Name : String := "ssh-ed25519"

/-- A text field; one that is not text is refused as such. -/
def readable : Except Utf8.Malformed String × Bytes → Attempt (String × Bytes)
  | (.ok s, r) => .ok (s, r)
  | (.error m, _) => refuse m.text

/-- Reads `n` public keys. -/
def publicPoints : Nat → Bytes → Attempt (List Bytes × Bytes)
  | 0, bs => .ok ([], bs)
  | n + 1, bs => do
    let (key, r) := Wire.string bs
    let (type, k) ← readable (Wire.text key)
    if type ≠ ed25519Name then refuse "Invalid key"
    let (points, r) ← publicPoints n r
    return ((Wire.string k).1 :: points, r)

/-- Reads the private keys that belong to some public ones. -/
def privatePoints : List Bytes → Bytes → Attempt (List Bytes)
  | [], _ => .ok []
  | point :: points, bs => do
    let (type, r) ← readable (Wire.text bs)
    if type ≠ ed25519Name then refuse "Invalid key"
    let (copy, r) := Wire.string r
    let (secret, r) := Wire.string r
    if secret.length < 32 then refuse "The seed must be exactly 32 bytes long"
    let key := Curve.Edwards.publicKey (secret.take 32)
    if key ≠ copy ∨ copy ≠ point ∨ point ≠ secret.drop 32 then refuse ""
    return key :: (← privatePoints points (Wire.string r).2)

/-- The Ed25519 key of a bundle, which must be its only one. -/
def ed25519Key (data : Bytes) (passphrase : Option String) : Attempt PublicKey := do
  let (head, r) := Wire.take magic.length data
  if head ≠ magic then refuse "Invalid key"
  let (cipher, r) ← readable (Wire.text r)
  let (kdf, r) ← readable (Wire.text r)
  let (settings, r) := Wire.string r
  let (count, r) := Wire.word r
  if kdf = "none" then
    if settings ≠ [] ∨ cipher ≠ "none" then refuse "Invalid key"
  else if kdf = "bcrypt" then
    if passphrase.getD "" = "" then throw .locked
  else refuse "Invalid key"
  let protection := bodyCiphers.find? fun c => c.name == cipher
  if cipher ≠ "none" ∧ protection.isNone then refuse "Invalid key"
  let (points, r) ← publicPoints count r
  let body := (Wire.string r).1
  let body ← match protection with
    | none => pure body
    | some c =>
      let (salt, r) := Wire.string settings
      c.open (passphrase.getD "") salt (Wire.word r).1 body
  let body ← unpad body
  let (check, r) := Wire.word body
  let (again, r) := Wire.word r
  if check ≠ again then refuse "Invalid key"
  match ← privatePoints points r with
  | [key] => return .ed25519 key
  | _ => refuse "Invalid key"

/-! ## Keys of the other kinds -/

def whole {α : Type} : Option α → Attempt α
  | some a => .ok a
  | none => refuse "unpack requires a buffer of 4 bytes"

def openBody (cipher kdf settings : Bytes) (body : Bytes) (passphrase : Option String) :
    Attempt Bytes := do
  if kdf = Bytes.ofAscii "bcrypt" then
    let known := bodyCiphers.filter fun c => c.name == "aes256-cbc" || c.name == "aes256-ctr"
    match known.find? fun c => Bytes.ofAscii c.name == cipher with
    | none => match Utf8.decode cipher with
      | .error m => refuse m.text
      | .ok name => refuse s!"unknown cipher `{String.ofList name}` used in private key file"
    | some c =>
      match passphrase with
      | none => throw .locked
      | some p =>
        let (salt, r) ← whole (Wire.string? settings)
        let (rounds, _) ← whole (Wire.word? r)
        c.open p salt rounds body
  else if kdf = Bytes.ofAscii "none" ∧ cipher = Bytes.ofAscii "none" then return body
  else refuse "unknown cipher or kdf used in private key file"

/-- The data of the private key of a bundle, behind its type. -/
def keyData (data : Bytes) (passphrase : Option String) : Attempt Bytes := do
  if data.take magic.length ≠ magic then refuse "unexpected OpenSSH key header encountered"
  let (cipher, r) ← whole (Wire.string? (data.drop magic.length))
  let (kdf, r) ← whole (Wire.string? r)
  let (settings, r) ← whole (Wire.string? r)
  let (count, r) ← whole (Wire.word? r)
  if count > 1 then refuse "unsupported: private keyfile has multiple keys"
  let (_, r) ← whole (Wire.string? r)
  let (body, _) ← whole (Wire.string? r)
  let body ← openBody cipher kdf settings body passphrase
  let (check, r) ← whole (Wire.word? body)
  let (again, r) ← whole (Wire.word? r)
  let (_, r) ← whole (Wire.string? r)
  if check ≠ again then refuse "OpenSSH private key file checkints do not match"
  unpad r

def rsaKey (bs : Bytes) : Attempt PublicKey := do
  let (n, r) ← whole (Wire.natural? bs)
  let (e, r) ← whole (Wire.natural? r)
  let (d, r) ← whole (Wire.natural? r)
  let (inverse, r) ← whole (Wire.natural? r)
  let (p, r) ← whole (Wire.natural? r)
  let (q, _) ← whole (Wire.natural? r)
  match RsaNumbers.complete n e d inverse p q with
  | .ok k => return k.publicKey
  | .error f => refuse f.text

def ecdsaKey (bs : Bytes) : Attempt PublicKey := do
  let (name, r) ← readable (Wire.text bs)
  let (secret, _) := Wire.integer (Wire.string r).2
  match Curve.Nist.all.find? fun c => c.name == name with
  | none => refuse "Invalid key curve identifier"
  | some c =>
    if secret ≤ 0 then refuse "private_value must be a positive integer."
    match c.publicPoint? secret.toNat with
    | some (x, y) => return .ecdsa c x y
    | none => refuse "Invalid EC key (key out of range, infinity, etc.)"

end Tether.Keys
