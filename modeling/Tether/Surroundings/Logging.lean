import Tether.Surroundings.Basic

/-! # Setting up logging

The options decide where the log goes: to a dump file with everything, to the
terminal with debug records, or to the terminal from warnings on.
-/

namespace Tether.Logging

variable {τ : Type}

def configured (o : ClientOptions) (l : Log) : Log :=
  let l := if o.dump then
      { l with outlet := .dump, root := Level.debug.rank, dumps := l.dumps ++ [""] }
    else if o.debug then
      { l with outlet := .terminal true, root := Level.debug.rank, library := Level.info.rank }
    else { l with outlet := .terminal false, root := Level.warning.rank }
  if o.dbg9p || o.dump then { l with gate := Level.debug.rank } else l

/-- Sets up logging; the answer is the name of the dump file, if there is one. -/
def setup (o : ClientOptions) : Act τ (Option String) := do
  modify fun s => { s with log := configured o s.log }
  if o.dump then
    let name := (← get).log.dumpName
    Act.printError s!"Logging to {name}\r\n"
    return some name
  else return none

end Tether.Logging
