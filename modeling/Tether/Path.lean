import Tether.Text.Blank

/-! # File paths

A path is its leading slashes and its components. Empty components and single
dots carry nothing and are dropped; `..` is kept, since the component before it
may be a link.
-/

namespace Tether

structure Path where
  root : String := ""
  parts : List String := []
  deriving DecidableEq, Repr, Inhabited

namespace Path

/-- The leading slashes of a text: two are kept, three or more count as one. -/
def rootOf (cs : List Char) : String :=
  match (cs.takeWhile (· = '/')).length with
  | 0 => ""
  | 2 => "//"
  | _ => "/"

def ofString (s : String) : Path where
  root := rootOf s.toList
  parts := ((Text.pieces (· = '/') s.toList).filter fun p => p ≠ [] ∧ p ≠ ['.']).map String.ofList

/-- The normal text of a path; that of the empty path is a dot. -/
def toString (p : Path) : String :=
  let body := p.root ++ String.intercalate "/" p.parts
  if body = "" then "." else body

instance : ToString Path := ⟨toString⟩

def isAbsolute (p : Path) : Bool := p.root ≠ ""

/-- The path `q` seen from `p`; an absolute path stays itself. -/
def join (p q : Path) : Path :=
  if q.isAbsolute then q else { p with parts := p.parts ++ q.parts }

end Path

end Tether
