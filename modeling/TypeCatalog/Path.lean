import TypeCatalog.Text.Pieces

/-! # Paths

A path in normal form: single slashes, no part that is a full stop, no slash at the end; two slashes
at the front, and no more, have a meaning of their own and stay.
-/

namespace TypeCatalog

/-- A path as the slashes at its front and its parts. -/
structure Path where
  root : String
  parts : List (List Char)
  deriving DecidableEq, Repr

namespace Path

/-- The slashes at the front that count. -/
def rootOf (cs : List Char) : String :=
  match (cs.takeWhile (· == '/')).length with
  | 0 => ""
  | 2 => "//"
  | _ => "/"

def partsOf (cs : List Char) : List (List Char) :=
  (Text.pieces '/' cs).filter fun p => !p.isEmpty && p != ['.']

def ofText (s : String) : Path := ⟨rootOf s.toList, partsOf s.toList⟩

/-- The text of a path; a full stop for the path without parts. -/
def toText (p : Path) : String :=
  if p.root = "" ∧ p.parts = [] then "."
  else p.root ++ String.ofList (Text.glue '/' p.parts)

def isAbsolute (p : Path) : Bool := p.root != ""

/-- The text of a path in normal form. -/
def normal (s : String) : String := (ofText s).toText

end Path

end TypeCatalog
