import Tether.Bytes.Base64
import Tether.Keys.Public
import Tether.Text.Blank

/-! # Host key files

A host key is given as a blob or as a line of text: the name of its type and
its blob in base64, one after the other, with other words before and after. The
text is searched for the first pair of neighbouring words of which the second
describes itself by the first.
-/

namespace Tether.HostKey

def declaredType (blob : Bytes) : Option String := (Wire.text blob).1.toOption

/-- Two neighbouring words as a type and a blob, if the blob declares that type. -/
def candidate? (type blob : List Char) : Option (String × Bytes) :=
  match Base64.decodeStrict blob with
  | some bs =>
    if declaredType bs = some (String.ofList type) then some (String.ofList type, bs) else none
  | none => none

/-- The pairs of neighbouring words that describe themselves. -/
def candidatesOf : List (List Char) → List (String × Bytes)
  | a :: b :: r => (candidate? a b).toList ++ candidatesOf (b :: r)
  | _ => []

def isComment (line : List Char) : Bool := line.head? == some '#'

/-- The candidates of a text, in the order of its lines. -/
def candidates (text : List Char) : List (String × Bytes) :=
  ((Text.lines text).map Text.trim).flatMap fun line =>
    if line = [] || isComment line then [] else candidatesOf (Text.words line)

section

variable {κ : Type} (ofBlob : String → Bytes → Except KeyFault κ)

/-- The key of a blob that declares a supported type. -/
def ofRawWith? (data : Bytes) : Option κ :=
  match declaredType data with
  | some type => if type = "" then none else (ofBlob type data).toOption
  | none => none

/-- Reads a host key, given the reader of blobs. Only the first candidate of a text is
tried. -/
def parseWith (data : Bytes) : Except KeyFault κ :=
  match ofRawWith? ofBlob data with
  | some k => .ok k
  | none => match candidates (Utf8.decodeLossy data) with
    | [] => .error .noKey
    | (type, blob) :: _ => ofBlob type blob

end

/-- The key of a blob, without the search of a text. -/
def ofRaw? (data : Bytes) : Option PublicKey := ofRawWith? PublicKey.ofBlob data

def parse (data : Bytes) : Except KeyFault PublicKey := parseWith PublicKey.ofBlob data

end Tether.HostKey
