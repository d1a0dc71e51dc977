import Tether.Bytes.Basic
import Tether.Failure

/-! # Connections that arrive

The peers that connect to a listener, with what each of them sends and how long
it takes over it.
-/

namespace Tether

inductive PeerAct
  | send (bytes : Bytes)
  | fail (f : Failure)
  deriving DecidableEq, Repr

structure PeerStep (τ : Type) where
  delay : τ
  act : PeerAct
  /-- Whether a read returns it even when it comes after the limit of the read. -/
  late : Bool := false
  deriving DecidableEq, Repr

/-- An accepted connection: what its peer will still do, and how long a read waits. -/
structure Peer (τ : Type) where
  name : String
  steps : List (PeerStep τ) := []
  timeout : Option τ := none
  deriving DecidableEq, Repr

inductive Delivery (τ : Type)
  | peer (p : Peer τ)
  | nothing
  | failure (f : Failure)
  deriving DecidableEq, Repr

structure Arrival (τ : Type) where
  delay : τ
  delivery : Delivery τ
  /-- Whether the listener delivers it even when it comes after the limit of the wait. -/
  late : Bool := false
  deriving DecidableEq, Repr

/-- What a file-share server does with a connection. -/
structure Reaction where
  read : Option Nat := none
  failure : Option Failure := none
  deriving DecidableEq, Repr

/-- The server that an exported namespace is handed to. -/
inductive FileShare (τ : Type)
  /-- A server, and its reaction to the `n`th connection it is given, counted from zero. -/
  | installed (label : String) (react : Nat → Peer τ → Reaction)
  | missing (name : String)

/-- A file-share server that is installed under a name. -/
structure ShareEntry where
  name : String
  value : String
  reactions : List Reaction := []
  failure : Option Failure := none
  deriving Repr

/-- The reaction of a server that goes through a list. -/
def reactInTurn {τ : Type} (rs : List Reaction) (n : Nat) (_ : Peer τ) : Reaction :=
  rs[n]?.getD {}

end Tether
