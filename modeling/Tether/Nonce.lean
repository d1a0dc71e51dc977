import Tether.Bytes.Hex
import Tether.Surroundings.Basic

/-! # Nonces

The secret of a session: the remote command gets it in its environment, and a
connection that brings it back is admitted.
-/

namespace Tether

structure Nonce where
  value : String
  deriving DecidableEq, Repr

namespace Nonce

def variableName : String := "CPUNONCE"

def size (n : Nonce) : Nat := n.value.length

def masked (n : Nonce) : String := s!"Nonce(<{n.size} chars>)"

/-- The bytes of a nonce, all of whose characters have to be ASCII. -/
def encode (n : Nonce) : Except Failure Bytes :=
  if n.value.toList.all fun c => c.toNat < 128 then .ok (Bytes.ofAscii n.value)
  else .error .unencodable

def admits (n : Nonce) (candidate : Bytes) : Except Failure Bool := do
  return (← n.encode) == candidate

/-- The nonce of some random bytes, of which there must be sixteen. -/
def ofBytes (bs : Bytes) : Except Failure Nonce :=
  if bs.length = nonceBytes then .ok ⟨Hex.encode bs⟩
  else .error (.random (.short bs.length))

/-- Draws a nonce from a random source. A failing source is not replaced by another. -/
def generate {τ : Type} (source : Nat → Act τ Bytes) : Act τ Nonce := do
  let bs ← tryCatch (source nonceBytes) fun f => throw (.random (.failed f.text))
  Act.lift (ofBytes bs)

end Nonce

end Tether
