import TypeCatalog.Text.Letters
import TypeCatalog.Text.Pieces

/-! # Text — dotted names

A dotted name is a path of components joined by full stops.  In a written reference each component
is a word that starts with an ASCII letter or the underscore.
-/

namespace TypeCatalog.Text

/-- A word that starts with an ASCII letter or the underscore. -/
def isComponent : List Char → Bool
  | []      => false
  | c :: cs => (c.isAlpha || c == '_') && cs.all isWord

/-- Components joined by full stops. -/
def isDotted (cs : List Char) : Bool :=
  (pieces '.' cs).all isComponent

/-- The parts of `name` between its full stops. -/
def components (name : String) : List String :=
  (pieces '.' name.toList).map String.ofList

/-- The path with the components `parts`. -/
def path (parts : List String) : String :=
  String.ofList (glue '.' (parts.map String.toList))

/-- `name` is `ancestor` or lies below it. -/
def isBelow (ancestor name : String) : Bool :=
  name == ancestor || (ancestor ++ ".").toList.isPrefixOf name.toList

end TypeCatalog.Text
