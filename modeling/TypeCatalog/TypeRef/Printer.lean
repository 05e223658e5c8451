import TypeCatalog.TypeRef

/-! # Type references — printing

The printed form of a reference is one the reader accepts: an array is its container with the
component in brackets, a type variable a tilde with its name and bound, anything else its name.
-/

namespace TypeCatalog.TypeRef

/-- The name of a container inside a reference: built-in containers are written bare. -/
def containerWord (container : String) : String :=
  let cs := container.toList
  if "builtins.".toList.isPrefixOf cs then String.ofList (cs.drop "builtins.".toList.length)
  else container

/-- The printed form of a reference. -/
def print : TypeRef → String
  | ⟨.array, container, some component, _, _⟩ =>
      let word := containerWord container
      if word = "tuple" then "tuple[" ++ print component ++ ", ...]"
      else word ++ "[" ++ print component ++ "]"
  | ⟨.typeVariable, name, _, none, _⟩         => "~" ++ name
  | ⟨.typeVariable, name, _, some bound, _⟩   => "~" ++ name ++ ": " ++ print bound
  | ⟨_, name, _, _, _⟩                        => name

end TypeCatalog.TypeRef
