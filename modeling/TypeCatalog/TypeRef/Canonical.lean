import TypeCatalog.TypeRef

/-! # Type references — canonical names

An array is known by its component and a type variable by its upper bound, so that a reference
comes down to one dotted name: the key under which indexes and format tables know the type.
-/

namespace TypeCatalog.TypeRef

/-- The name a reference comes down to. -/
def canonicalName : TypeRef → Except TypeFault String
  | ⟨.array, _, some component, _, _⟩      => canonicalName component
  | ⟨.array, name, none, _, _⟩             => .error (.invalid name .noComponent)
  | ⟨.typeVariable, _, _, some bound, _⟩   => canonicalName bound
  | ⟨.typeVariable, _, _, none, _⟩         => .ok objectName
  | ⟨_, name, _, _, _⟩                     => .ok name

/-- The upper bound of a type variable; the type above all types if it has none. -/
def upperBound (r : TypeRef) : TypeRef := r.bound.getD object

/-- A type variable's bound; any other reference itself. -/
def resolveVariable (r : TypeRef) : TypeRef :=
  match r.kind with
  | .typeVariable => r.upperBound
  | _             => r

/-- The primitive a reference of that kind names. -/
def asPrimitive (r : TypeRef) : Except TypeFault Primitive :=
  match r.kind with
  | .primitive =>
      match Primitive.ofSpelling? r.name with
      | some p => .ok p
      | none   => .error (.unknownPrimitive r.name)
  | _ => .error (.invalid r.name .notPrimitive)

end TypeCatalog.TypeRef
