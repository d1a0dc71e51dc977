import Tether.Surroundings.Peer
import Tether.Surroundings.Stream

/-! # The connection to the remote host

How the remote side behaves: its channels, the listener it opens for us, and
the connections that it forwards.
-/

namespace Tether

/-- The operations of a channel that may fail as a whole. -/
structure ChannelFaults where
  exec : Option Failure := none
  makeFile : Option Failure := none
  exitStatus : Option Failure := none
  eventPending : Option Failure := none
  userMessage : Option Failure := none
  waitForEvent : Option Failure := none
  resize : Option Failure := none
  close : Option Failure := none
  deriving Repr

/-- A channel: how its remote side behaves and what has been done with it. -/
structure Channel where
  refused : Option Failure := none
  /-- The number under which the remote side knows the channel. -/
  number : Int := 0
  stdout : Reader := []
  stderr : Reader := []
  stdin : Sink := {}
  status : Int := 0
  setenv : String → Option Failure := fun _ => none
  faults : ChannelFaults := {}
  command : Option String := none

/-- A port on the remote host that is forwarded to us. -/
structure Forwarding where
  host : String
  port : Int
  closed : Bool := false
  deriving DecidableEq, Repr

structure Connection (τ : Type) where
  /-- Whether there is a transport at all. -/
  present : Bool := true
  active : Bool := true
  forward : Except Failure Int := .ok 0
  arrivals : List (Arrival τ) := []
  /-- The failure to give the forwarded port back. -/
  cancel : Option Failure := none
  script : Nat → Channel := fun _ => {}
  channels : List Channel := []
  forwardings : List Forwarding := []
  close : Option Failure := none

end Tether
