import Tether.Path

/-! # Client options

What one invocation of the client is asked to do. The options are fixed once
they have passed their checks.
-/

namespace Tether

/-- The address families that a host may be dialled in. -/
inductive Network
  | tcp | tcp4 | tcp6
  deriving DecidableEq, Repr

namespace Network

def toString : Network → String
  | .tcp => "tcp"
  | .tcp4 => "tcp4"
  | .tcp6 => "tcp6"

instance : ToString Network := ⟨toString⟩

def all : List Network := [.tcp, .tcp4, .tcp6]

def ofString? (s : String) : Option Network := all.find? (·.toString == s)

end Network

abbrev Environment := List (String × String)

def Environment.get? (env : Environment) (name : String) : Option String := env.lookup name

def Environment.withDefault (env : Environment) (v : String × String) : Environment :=
  if (env.get? v.1).isNone then env ++ [v] else env

namespace Options

def defaultBin : String := "cpud"
def defaultPort : Nat := 23
def defaultMsize : Nat := 1048576
def defaultTimeout : String := "100ms"
def defaultKeyName : String := ".ssh/cpu_rsa"

/-- Set to an empty text to run without exporting the namespace. -/
def namespaceVariable : String := "CPU_NAMESPACE"

end Options

structure ClientOptions where
  host : String
  command : String := ""
  user : String := ""
  bin : String := Options.defaultBin
  debug : Bool := false
  dbg9p : Bool := false
  dump : Bool := false
  keyFile : Path
  hostKeyFile : Option Path := none
  insecure : Bool := false
  mountopts : String := ""
  msize : Nat := Options.defaultMsize
  network : Network := .tcp
  port : Nat := Options.defaultPort
  port9p : Nat := 0
  root : Path := { root := "/" }
  timeout9p : Float := 0.1
  deriving Repr

/-- The namespace is exported unless its variable is present and empty. -/
def namespaceEnabled (env : Environment) : Bool :=
  env.get? Options.namespaceVariable != some ""

/-- The identity key that is used when none is named. -/
def defaultKeyFile (env : Environment) : Path :=
  (Path.ofString ((env.get? "HOME").getD "")).join (Path.ofString Options.defaultKeyName)

end Tether
