/-! # Option values before they are checked

An option may be given in several shapes: the command line gives text, numbers
and switches, a caller may give anything.
-/

namespace Tether.Options

inductive Value
  | null
  | bool (b : Bool)
  | int (n : Int)
  | float (x : Float)
  | text (s : String)
  | words (ws : List String)
  /-- A shape that no option takes. -/
  | other (empty : Bool)
  deriving Repr, Inhabited

def Value.given : Value → Bool
  | .null => false
  | .bool b => b
  | .int n => n != 0
  | .float x => x != 0
  | .text s => s != ""
  | .words ws => !ws.isEmpty
  | .other empty => !empty

end Tether.Options
