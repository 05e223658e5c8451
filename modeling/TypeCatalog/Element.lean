import TypeCatalog.TypeRef

/-! # Program elements

What an index records of a class: its superclass and further bases, its annotations, its fields and
its methods.  A method stores the annotations of its parameters beside its own; which is which
shows in the element kind and the position recorded with each.
-/

namespace TypeCatalog

structure FieldInfo where
  name : String
  type : TypeRef
  annotations : List AnnotationRecord

structure MethodInfo where
  name : String
  parameterNames : List String
  parameterTypes : List TypeRef
  returnType : Option TypeRef
  annotations : List AnnotationRecord

/-- The recorded metadata of a class; `interfaces` are the canonical names of its further bases. -/
structure ClassInfo where
  name : String
  superclass : Option TypeRef
  interfaces : List String
  annotations : List AnnotationRecord
  fields : List FieldInfo
  methods : List MethodInfo

instance : Inhabited ClassInfo := ⟨⟨"", none, [], [], [], []⟩⟩

namespace FieldInfo

def agrees (f g : FieldInfo) : Bool :=
  f.name == g.name && f.type.agrees g.type
    && agreesAll AnnotationRecord.agrees f.annotations g.annotations

end FieldInfo

namespace MethodInfo

def agrees (m n : MethodInfo) : Bool :=
  m.name == n.name && m.parameterNames == n.parameterNames
    && agreesAll TypeRef.agrees m.parameterTypes n.parameterTypes
    && TypeRef.agreesPart m.returnType n.returnType
    && agreesAll AnnotationRecord.agrees m.annotations n.annotations

end MethodInfo

namespace ClassInfo

def field? (c : ClassInfo) (name : String) : Option FieldInfo :=
  c.fields.find? fun f => f.name == name

def method? (c : ClassInfo) (name : String) : Option MethodInfo :=
  c.methods.find? fun m => m.name == name

def agrees (c d : ClassInfo) : Bool :=
  c.name == d.name && TypeRef.agreesPart c.superclass d.superclass
    && c.interfaces == d.interfaces
    && agreesAll AnnotationRecord.agrees c.annotations d.annotations
    && agreesAll FieldInfo.agrees c.fields d.fields
    && agreesAll MethodInfo.agrees c.methods d.methods

end ClassInfo

/-! ### Elements -/

/-- A program element that can carry annotations, with the class that declares it. -/
inductive Element where
  | ofClass (c : ClassInfo)
  | field (owner : ClassInfo) (f : FieldInfo)
  | method (owner : ClassInfo) (m : MethodInfo)
  | parameter (owner : ClassInfo) (m : MethodInfo) (position : Int)
  | type (r : TypeRef)

namespace Element

def kind : Element → ElementKind
  | .ofClass _       => .classType
  | .field _ _       => .field
  | .method _ _      => .method
  | .parameter _ _ _ => .parameter
  | .type _          => .type

/-- Equality of elements; the declaring class is not compared. -/
def agrees : Element → Element → Bool
  | .ofClass c,       .ofClass d       => c.agrees d
  | .field _ f,       .field _ g       => f.agrees g
  | .method _ m,      .method _ n      => m.agrees n
  | .parameter _ m i, .parameter _ n j => m.agrees n && i == j
  | .type r,          .type s          => r.agrees s
  | _,                _                => false

/-- Two elements of one index stand at the same place in it. -/
def isAtPlaceOf : Element → Element → Bool
  | .ofClass c,       .ofClass d       => c.name == d.name
  | .field c f,       .field d g       => c.name == d.name && f.name == g.name
  | .method c m,      .method d n      => c.name == d.name && m.name == n.name
  | .parameter c m i, .parameter d n j => c.name == d.name && m.name == n.name && i == j
  | _,                _                => false

/-- Equality of elements of one index: what stands at one place agrees with itself, even if one of
its values does not. -/
def agreesInIndex (a b : Element) : Bool := a.isAtPlaceOf b || a.agrees b

/-- The class that declares a field, a method or the method of a parameter. -/
def declaringClass? : Element → Option ClassInfo
  | .field owner _       => some owner
  | .method owner _      => some owner
  | .parameter owner _ _ => some owner
  | _                    => none

end Element

/-! ### Parameters -/

/-- A position at which a method has no parameter, or a list no item. -/
inductive PositionFault where
  | noParameter (method : String) (position : Int)
  | outOfRange
  deriving DecidableEq, Repr

def PositionFault.message : PositionFault → String
  | .noParameter method position =>
      method ++ " has no parameter at position " ++ toString position
  | .outOfRange => "tuple index out of range"

/-- The item at a position; negative positions count from the end. -/
def itemAt? {α : Type} (items : List α) (position : Int) : Option α :=
  if 0 ≤ position then items[position.toNat]?
  else if -position ≤ items.length then items[(items.length + position).toNat]?
  else none

namespace MethodInfo

/-- `position` is that of a parameter of the method. -/
def hasParameter (m : MethodInfo) (position : Int) : Bool :=
  decide (0 ≤ position) && decide (position < m.parameterTypes.length)

/-- The parameter at a position the method has. -/
def parameter (owner : ClassInfo) (m : MethodInfo) (position : Int) :
    Except PositionFault Element :=
  if m.hasParameter position then .ok (.parameter owner m position)
  else .error (.noParameter m.name position)

/-- The name at a position; nothing where the recorded names have ended. -/
def parameterName (m : MethodInfo) (position : Int) : Except PositionFault (Option String) :=
  if position < m.parameterNames.length then
    match itemAt? m.parameterNames position with
    | some name => .ok (some name)
    | none      => .error .outOfRange
  else .ok none

def parameterType (m : MethodInfo) (position : Int) : Except PositionFault TypeRef :=
  match itemAt? m.parameterTypes position with
  | some type => .ok type
  | none      => .error .outOfRange

end MethodInfo

end TypeCatalog
