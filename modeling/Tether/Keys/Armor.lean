import Tether.Bytes.Base64
import Tether.Bytes.Hex
import Tether.Cipher.Aes
import Tether.Cipher.Des
import Tether.Digest.Md5
import Tether.Text.Blank
import Tether.Text.Utf8

/-! # Armoured key files

A private key file is text between a line that begins and a line that ends it,
in base64, with headers in front of it when it is protected by a passphrase.
-/

namespace Tether.Keys

/-- The kinds of private key, in the order in which a file is tried for them. -/
inductive Kind
  | ed25519 | ecdsa | rsa
  deriving DecidableEq, Repr

namespace Kind

def all : List Kind := [.ed25519, .ecdsa, .rsa]

def label : Kind → String
  | .ed25519 => "Ed25519Key"
  | .ecdsa => "ECDSAKey"
  | .rsa => "RSAKey"

def tag : Kind → String
  | .ed25519 => "OPENSSH"
  | .ecdsa => "EC"
  | .rsa => "RSA"

end Kind

/-- The word of the files that hold keys of any kind. -/
def anyTag : String := "OPENSSH"

def tags : List String := ["RSA", "EC", anyTag]

/-- Why a file does not hold a key of some kind. -/
inductive Refusal
  /-- The key is protected and there is no passphrase. -/
  | locked
  | because (text : String)
  deriving DecidableEq, Repr

abbrev Attempt := Except Refusal

def refuse {α : Type} (text : String) : Attempt α := .error (.because text)

/-- The lines of a file: line feeds, carriage returns and both together end a line. -/
def fileLines : List Char → List (List Char)
  | [] => []
  | '\r' :: '\n' :: r => [] :: fileLines r
  | c :: r =>
    if c = '\n' || c = '\r' then [] :: fileLines r else Text.ontoFirst c (fileLines r)

/-- The word of a boundary line, with blanks behind it at most. -/
def boundary? (verb : String) (line : List Char) : Option String :=
  let line := (line.reverse.dropWhile Text.isBlank).reverse
  tags.find? fun t => (s!"-----{verb} {t} PRIVATE KEY-----").toList == line

/-- The part of a file from its first line that begins a key: the word, the lines before
the one that ends the key, counted from the top of the file, and the place where they
start. -/
structure Extent where
  tag : String
  start : Nat
  stop : Nat

/-- Finds the key in a file. Without an ending line the last line counts as one. -/
def extent? (lines : List (List Char)) : Option Extent := do
  let before := lines.takeWhile fun l => (boundary? "BEGIN" l).isNone
  let tag ← (lines[before.length]?).bind (boundary? "BEGIN")
  let start := before.length + 1
  if start ≥ lines.length then none
  else
    let body := (lines.drop start).takeWhile fun l => (boundary? "END" l).isNone
    some ⟨tag, start, min (start + body.length) (lines.length - 1)⟩

def splitHeader : List Char → List (List Char)
  | [] => [[]]
  | ':' :: ' ' :: r => [] :: splitHeader r
  | c :: r => Text.ontoFirst c (splitHeader r)

/-- A letter in its small form. The sign of the kelvin is a letter too. -/
def smallLetter (c : Char) : Char := if c = '\u212a' then 'k' else c.toLower

/-- A header line as its name in small letters and its value. -/
def header? (line : List Char) : Option (String × List Char) :=
  match splitHeader line with
  | name :: value :: _ => some (String.ofList (name.map smallLetter), Text.trim value)
  | _ => none

/-- The headers at the top of some lines; of two with one name the later one counts. -/
def headersOf (lines : List (List Char)) : List (String × List Char) :=
  (lines.takeWhile fun l => (header? l).isSome).filterMap header?

def headerValue (headers : List (String × List Char)) (name : String) : Option (List Char) :=
  headers.reverse.lookup name

def fromBase64 (lines : List (List Char)) : Attempt Bytes :=
  match Base64.decodeLoose lines.flatten with
  | .ok bs => .ok bs
  | .error e => refuse s!"base64 decoding error: {e.text}"

structure Protection where
  name : String
  size : Nat
  block : Nat
  cipher : Bytes → Cipher.BlockCipher

def protections : List Protection :=
  [⟨"AES-128-CBC", 16, 16, Cipher.Aes.cipher⟩, ⟨"AES-256-CBC", 32, 16, Cipher.Aes.cipher⟩,
    ⟨"DES-EDE3-CBC", 24, 8, Cipher.Des.triple⟩]

/-- Stretches a passphrase and a salt to a key of up to `n` digests' length. -/
def stretch (passphrase salt : Bytes) : Nat → Bytes → Bytes
  | 0, _ => []
  | n + 1, last =>
    let d := Digest.Md5.digest (last ++ passphrase ++ salt)
    d ++ stretch passphrase salt n d

/-- The key of `size` bytes that a passphrase gives. -/
def keyOf (passphrase salt : Bytes) (size : Nat) : Bytes :=
  (stretch passphrase (salt.take 8) (size / 16 + 1) []).take size

def unevenText : String :=
  "The length of the provided data is not a multiple of the block length."

def unlock (p : Protection) (salt : List Char) (passphrase : String) (data : Bytes) :
    Attempt Bytes :=
  match Hex.decodeChars salt with
  | none =>
    refuse (if (salt.flatMap Utf8.encodeChar).length % 2 = 1 then "Odd-length string"
      else "Non-hexadecimal digit found")
  | some start =>
    if start.length ≠ p.block then refuse s!"Invalid IV size ({start.length * 8}) for CBC."
    else if data.length % p.block ≠ 0 then refuse unevenText
    else
      let cipher := p.cipher (keyOf (Utf8.encode passphrase) start p.size)
      match Cipher.unpad? p.block (cipher.decryptChained start data) with
      | some bs => .ok bs
      | none => refuse "Bad password or corrupt private key file"

/-- The data of a file in the older form, whose headers stand from its second line on. -/
def pemData (lines : List (List Char)) (stop : Nat) (passphrase : Option String) :
    Attempt Bytes := do
  let rest := lines.drop 1
  let headers := headersOf rest
  let used := 1 + (rest.takeWhile fun l => (header? l).isSome).length
  let data ← fromBase64 ((lines.take stop).drop used)
  match headerValue headers "proc-type" with
  | none => return data
  | some type =>
    if type ≠ "4,ENCRYPTED".toList then
      refuse s!"Unknown private key structure \"{String.ofList type}\""
    else match (headerValue headers "dek-info").map (Text.pieces (· = ',')) with
      | some [name, salt] =>
        match protections.find? fun p => p.name == String.ofList name with
        | none => refuse s!"Unknown private key cipher \"{String.ofList name}\""
        | some protection =>
          match passphrase with
          | none => .error .locked
          | some p => unlock protection salt p data
      | _ => refuse "Can't parse DEK-info in private key file"

end Tether.Keys
