import Tether.CommandLine.Arguments
import Tether.Failure
import Tether.Options.Check

/-! # Options from the command line and the environment

The command line names the host and the options; the environment supplies the
user and the place of the default identity key.
-/

namespace Tether.CommandLine

open Options (Value)

/-- The named settings of a command line; a caller may replace any of them by any value. -/
abbrev Settings := List (String × Value)

namespace Settings

def get (s : Settings) (name : String) : Value := (s.lookup name).getD .null

def put (s : Settings) (name : String) (v : Value) : Settings :=
  s.map fun (n, w) => (n, if n = name then v else w)

end Settings

/-- The settings of a command line. An option without a value has an empty one. -/
def Arguments.settings (a : Arguments) : Settings :=
  a.emptied.foldl (fun s f => s.put f.name (.words []))
    [("bin", .text a.bin), ("debug", .bool a.debug), ("dump", .bool a.dump),
      ("dbg9p", .bool a.dbg9p), ("hk", .text a.hk), ("insecure", .bool a.insecure),
      ("key", .text a.key), ("mountopts", .text a.mountopts), ("msize", .int a.msize),
      ("network", .text a.network), ("sp", .int a.sp), ("port9p", .int a.port9p),
      ("root", .text a.root), ("timeout9p", .text a.timeout9p),
      ("host", a.host.elim .null .text), ("command", .words a.command)]

namespace Settings

/-- A setting that stands for `standard` when it is not given. -/
def orElse (s : Settings) (name : String) (standard : Value) : Value :=
  if (s.get name).given then s.get name else standard

/-- The words of the remote command, joined by single blanks. -/
def joined : Value → Option String
  | .words ws => some (String.intercalate " " ws)
  | .text t => some (String.intercalate " " (t.toList.map String.singleton))
  | v => if v.given then none else some ""

/-- Whether a value is text, as a path has to be. -/
def isText : Value → Bool
  | .text _ => true
  | _ => false

def pathsUsable (s : Settings) : Bool :=
  ["key", "hk"].all (fun n => !(s.get n).given || isText (s.get n)) && isText (s.get "root")

def given (s : Settings) (command : String) (env : Environment) : Options.Given :=
  [("host", s.orElse "host" (.text "")),
    ("command", .text command),
    ("user", .text ((env.get? "USER").getD "")),
    ("bin", s.get "bin"), ("debug", s.get "debug"), ("dbg9p", s.get "dbg9p"),
    ("dump", s.get "dump"),
    ("key_file", s.orElse "key" (.text (defaultKeyFile env).toString)),
    ("host_key_file", s.orElse "hk" .null),
    ("insecure", s.get "insecure"), ("mountopts", s.get "mountopts"),
    ("msize", s.get "msize"), ("network", s.get "network"), ("port", s.get "sp"),
    ("port9p", s.get "port9p"), ("root", s.get "root"), ("timeout9p", s.get "timeout9p")]

def options (s : Settings) (env : Environment) : Except Failure ClientOptions :=
  match joined (s.get "command") with
  | none => .error .unusable
  | some command =>
    if s.pathsUsable then
      match Options.check (s.given command env) with
      | .ok o => .ok o
      | .error problems => .error (.configuration (.options problems))
    else .error .unusable

end Settings

end Tether.CommandLine
