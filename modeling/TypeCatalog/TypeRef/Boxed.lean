import TypeCatalog.TypeRef.Canonical

/-! # Type references — boxed primitives

Each primitive has classes that box it, named under `ctypes`.  Two references name equal types when
their names are equal or when one is a primitive and the other a class that boxes it.
-/

namespace TypeCatalog

/-- The classes that box a primitive. -/
def Primitive.boxes : Primitive → List String
  | .bool   => ["ctypes.c_bool"]
  | .byte   => ["ctypes.c_byte", "ctypes.c_int8"]
  | .char   => ["ctypes.c_char"]
  | .short  => ["ctypes.c_short", "ctypes.c_int16"]
  | .int    => ["ctypes.c_int", "ctypes.c_int32"]
  | .long   => ["ctypes.c_longlong", "ctypes.c_int64"]
  | .float  => ["ctypes.c_float"]
  | .double => ["ctypes.c_double"]

namespace TypeRef

/-- `r` names a class that boxes `p`. -/
def boxes (r : TypeRef) (p : Primitive) : Bool := p.boxes.contains r.name

/-- `r` names a class that boxes the primitive spelled `spelling`. -/
def boxesSpelling (r : TypeRef) (spelling : String) : Except TypeFault Bool :=
  match Primitive.ofSpelling? spelling with
  | some p => .ok (r.boxes p)
  | none   => .error (.unknownPrimitive spelling)

/-- `a` is a primitive and `b` a class that boxes it. -/
def isBoxedBy (a b : TypeRef) : Except TypeFault Bool :=
  match a.kind, b.kind with
  | .primitive, .classType => a.asPrimitive.map b.boxes
  | _,          _          => .ok false

/-- `a` and `b` name the same type, or a primitive and a class that boxes it. -/
def sameType (a b : TypeRef) : Except TypeFault Bool :=
  if a.name = b.name then .ok true
  else
    match a.isBoxedBy b with
    | .error fault => .error fault
    | .ok true     => .ok true
    | .ok false    => b.isBoxedBy a

end TypeRef

end TypeCatalog
