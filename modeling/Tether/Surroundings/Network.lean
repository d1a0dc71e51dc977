import Tether.Failure

/-! # Name lookup and sockets

What the lookup of a host name answers, and how each address takes a connection.
-/

namespace Tether

/-- An address that the lookup gives, and what fails on it. -/
structure Address where
  name : String
  family : String := "inet"
  create : Option Failure := none
  connect : Option Failure := none
  option : Option Failure := none
  deriving DecidableEq, Repr

inductive Lookup
  | failed (text : String)
  | found (addresses : List Address)
  deriving DecidableEq, Repr

end Tether
