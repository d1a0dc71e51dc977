import Tether.Surroundings.Basic

/-! # Dialling

The addresses of a host are tried in the order in which the lookup gives them,
until one takes the connection.
-/

namespace Tether.Connect

variable {τ : Type}

def familyOf : Network → String
  | .tcp => "unspec"
  | .tcp4 => "inet"
  | .tcp6 => "inet6"

def networkOf (name : String) : Except Failure Network :=
  (Network.ofString? name).elim (.error .unknownNetwork) .ok

def socketCall (a : Address) (c : SocketCall τ) : Act τ Unit := Act.emit (.socket a.name c)

/-- Connects the socket of an address; a failure of the system closes the socket and is
the answer. -/
def attempt (a : Address) (timeout : τ) : Act τ (Option Failure) := do
  socketCall a (.timeout (some timeout))
  socketCall a .connect
  match a.connect with
  | none => return none
  | some f =>
    if f.isSystem then
      socketCall a .close
      return some f
    else throw f

/-- Tries addresses, the first of them being the one of number `index`. The answer is the
address that is connected, or the last failure. -/
def tryAddresses (timeout : τ) (index : Nat) (last : Option Failure) :
    List Address → Act τ (Except (Option Failure) Address)
  | [] => return .error last
  | a :: r => do
    Act.emit (.createSocket index a.family)
    Act.failIf a.create
    match ← attempt a timeout with
    | some f => tryAddresses timeout (index + 1) (some f) r
    | none =>
      socketCall a (.timeout none)
      socketCall a .noDelay
      Act.failIf a.option
      return .ok a

def lookupText (t : String) : String := s!"[Errno -2] {t}"

def dial (network : Network) (host : String) (port : Nat) (timeout : τ) : Act τ Address := do
  Act.emit (.lookup host port (familyOf network))
  match (← get).network with
  | .failed t => throw (.dial host port (lookupText t))
  | .found addresses =>
    match ← tryAddresses timeout 0 none addresses with
    | .ok a => return a
    | .error last => throw (.dial host port ((last.map (·.text)).getD "None"))

end Tether.Connect
