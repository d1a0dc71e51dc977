import Tether.Bytes.Basic
import Tether.Path
import Tether.Surroundings.Terminal

/-! # Events

What the client does to its surroundings, call by call. The list of events is
the record of a run.
-/

namespace Tether

inductive ChannelCall
  | exec (command : String)
  | makeFile
  | exitStatus
  | setenv (name value : String)
  | eventPending
  | waitForEvent
  | resize (width height : Int)
  | close
  deriving DecidableEq, Repr

/-- A request made of a remote session. -/
inductive SessionCall
  | setenv (name value : String)
  | requestPty (term : String) (width height : Int) (modes : List (Int × Int))
  | start (command : String)
  | resize (width height : Int)
  | close
  deriving DecidableEq, Repr

inductive SocketCall (τ : Type)
  | timeout (span : Option τ)
  | connect
  | noDelay
  | close
  deriving DecidableEq, Repr

/-- What is done with a key that the server presents and nobody knows. -/
inductive UnknownKeyPolicy
  | reject
  | accept
  deriving DecidableEq, Repr

inductive Event (τ : Type)
  -- forwarded connections
  | accept (timeout : Option τ)
  | setTimeout (peer : String) (span : Option τ)
  | receive (peer : String) (count : Nat)
  | closePeer (peer : String)
  | serve (label peer : String) (root : Path)
  | served (peer : String) (bytes : Bytes)
  | listen (address : String)
  | closeListener
  | findShares
  | loadShare (value : String)
  -- the local terminal
  | getMode (fd : Int)
  | setRaw (fd : Int)
  | putMode (fd : Int) (mode : Mode)
  | body
  | handler (h : ResizeHandler)
  -- the remote side
  | openChannel (index : Nat)
  | channel (index : Nat) (call : ChannelCall)
  | userMessage (bytes : Bytes)
  | requestForward (host : String) (port : Nat)
  | cancelForward (host : String) (port : Int)
  | closeClient
  | newSession
  | session (call : SessionCall)
  | run (command : String)
  -- connecting
  | connect (host : String)
  | askPassphrase (key : Path)
  | prompt (text : String)
  | addHostKey (name type : String) (blob : Bytes)
  | policy (p : UnknownKeyPolicy)
  | systemHostKeys
  | lookup (host : String) (port : Nat) (family : String)
  | createSocket (index : Nat) (family : String)
  | socket (name : String) (call : SocketCall τ)
  | authenticate (host : String) (port : Nat) (user : String) (key : Bytes) (socket : String)
  -- the process
  | askRandom (count : Nat)
  | makeNonce
  | loadEnvironment
  deriving DecidableEq, Repr

end Tether
