/-! # The options of the command

The table of options that the command line knows, with their spellings in the
order of their declaration.
-/

namespace Tether.CommandLine

inductive Flag
  | help | bin | debug | dump | dbg9p | hk | insecure | key | mountopts | msize | network
  | sp | port9p | root | timeout9p | version
  deriving DecidableEq, Repr

namespace Flag

def all : List Flag :=
  [.help, .bin, .debug, .dump, .dbg9p, .hk, .insecure, .key, .mountopts, .msize, .network,
    .sp, .port9p, .root, .timeout9p, .version]

def spellings : Flag → List String
  | .help => ["-h", "--help"]
  | .bin => ["-bin"]
  | .debug => ["-d"]
  | .dump => ["-dump"]
  | .dbg9p => ["-dbg9p"]
  | .hk => ["-hk"]
  | .insecure => ["-insecure"]
  | .key => ["-key"]
  | .mountopts => ["-mountopts"]
  | .msize => ["-msize"]
  | .network => ["-network"]
  | .sp => ["-sp"]
  | .port9p => ["-port9p"]
  | .root => ["-root"]
  | .timeout9p => ["-timeout9p"]
  | .version => ["-version"]

/-- The options that stand alone; the others take a value. -/
def isSwitch : Flag → Bool
  | .help | .debug | .dump | .dbg9p | .insecure | .version => true
  | _ => false

/-- What an option is called: its last spelling without hyphens. -/
def name (f : Flag) : String :=
  match f with
  | .debug => "debug"
  | f => String.ofList ((f.spellings.getLast?.getD "").toList.dropWhile (· = '-'))

def title (f : Flag) : String := String.intercalate "/" f.spellings

end Flag

/-- Every spelling with its option, in the order of declaration. -/
def table : List (List Char × Flag) :=
  Flag.all.flatMap fun f => f.spellings.map fun s => (s.toList, f)

def flag? (spelling : List Char) : Option Flag := table.lookup spelling

end Tether.CommandLine
