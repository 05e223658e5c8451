import TypeCatalog.Report
import TypeCatalog.Ordered

/-! # Type references

A `TypeRef` names a declared type without loading it: a primitive by its width, a class by its
dotted path, an array by its container and component, a type variable by its name and upper bound.
References also arrive from outside without having been checked, so a reference may lack the
component its kind calls for, or carry one its kind does not.

* `Primitive`: the eight fixed-width scalars and their spellings.
* `AnnotationRecord`: metadata recorded against a program element or a use of a type.
* `TypeFault`: what can be wrong with a reference.
-/

namespace TypeCatalog

/-! ### Annotations -/

/-- A recorded annotation: its name, its properties, the kind of element it was recorded against
and, for a parameter of a method, the position of the parameter. -/
structure AnnotationRecord where
  name : String
  values : Entries String Value
  target : Option ElementKind
  position : Option Int

namespace AnnotationRecord

/-- The primary property of an annotation. -/
def primary : String := "value"

/-- The value of a property, or `default` if the annotation does not have it. -/
def value (a : AnnotationRecord) (property : String) (default : Value) : Value :=
  (a.values.get? property).getD default

def has (a : AnnotationRecord) (property : String) : Bool := (a.values.get? property).isSome

/-- The annotation as a value nested in another one. -/
def toValue (a : AnnotationRecord) : Value := .nested a.name a.values a.target a.position

/-- Equality of annotations as data. -/
def agrees (a b : AnnotationRecord) : Bool := a.toValue.agrees b.toValue

end AnnotationRecord

/-- Agreement of lists, item by item. -/
def agreesAll {α : Type} (agrees : α → α → Bool) : List α → List α → Bool
  | [],      []      => true
  | a :: as, b :: bs => agrees a b && agreesAll agrees as bs
  | _,       _       => false

/-! ### Primitives -/

/-- Scalars of fixed width. -/
inductive Primitive where
  | bool
  | byte
  | char
  | short
  | int
  | long
  | float
  | double
  deriving DecidableEq, Repr

namespace Primitive

def all : List Primitive := [.bool, .byte, .char, .short, .int, .long, .float, .double]

/-- The name of a primitive in a reference. -/
def spelling : Primitive → String
  | .bool   => "bool8"
  | .byte   => "int8"
  | .char   => "char"
  | .short  => "int16"
  | .int    => "int32"
  | .long   => "int64"
  | .float  => "float32"
  | .double => "float64"

def ofSpelling? (s : String) : Option Primitive := all.find? fun p => p.spelling == s

theorem ofSpelling?_spelling (p : Primitive) : ofSpelling? p.spelling = some p := by
  cases p <;> decide

theorem spelling_of_ofSpelling? {s : String} {p : Primitive} (h : ofSpelling? s = some p) :
    p.spelling = s := by
  simpa using List.find?_some h

theorem ofSpelling?_eq_none_iff {s : String} :
    ofSpelling? s = none ↔ ∀ p : Primitive, p.spelling ≠ s := by
  constructor
  · rintro h p rfl
    rw [ofSpelling?_spelling] at h
    cases h
  · intro h
    cases hs : ofSpelling? s with
    | none => rfl
    | some p => exact absurd (spelling_of_ofSpelling? hs) (h p)

end Primitive

/-! ### References -/

inductive TypeKind where
  | primitive
  | classType
  | array
  | typeVariable
  deriving DecidableEq, Repr

/-- A reference to a declared type. -/
structure TypeRef where
  kind : TypeKind
  name : String
  component : Option TypeRef
  bound : Option TypeRef
  annotations : List AnnotationRecord

instance : Inhabited TypeRef := ⟨⟨.classType, "", none, none, []⟩⟩

namespace TypeRef

def ofPrimitive (p : Primitive) : TypeRef := ⟨.primitive, p.spelling, none, none, []⟩

def ofClass (name : String) : TypeRef := ⟨.classType, name, none, none, []⟩

/-- A sequence of `component` held in `container`. -/
def arrayOf (container : String) (component : TypeRef) : TypeRef :=
  ⟨.array, container, some component, none, []⟩

def typeVariable (name : String) (bound : Option TypeRef) : TypeRef :=
  ⟨.typeVariable, name, none, bound, []⟩

/-- The name of the type above all types. -/
def objectName : String := "builtins.object"

def object : TypeRef := ofClass objectName

mutual

/-- Equality of references as data. -/
def agrees : TypeRef → TypeRef → Bool
  | ⟨k, n, c, b, as⟩, ⟨l, m, d, e, bs⟩ =>
      k == l && n == m && agreesPart c d && agreesPart b e
        && agreesAll AnnotationRecord.agrees as bs

def agreesPart : Option TypeRef → Option TypeRef → Bool
  | none,   none   => true
  | some r, some s => agrees r s
  | _,      _      => false

end

end TypeRef

/-! ### Faults -/

/-- Why a reference is not a valid one. -/
inductive TypeFlaw where
  | empty
  | unbalanced
  | union
  | unnamedVariable
  | missingBound
  | emptyArgument
  | optionalArguments
  | containerArguments (container : String)
  | notDotted (name : String)
  | noComponent
  | notPrimitive
  deriving DecidableEq, Repr

def TypeFlaw.reason : TypeFlaw → String
  | .empty                => "empty reference"
  | .unbalanced           => "unbalanced brackets"
  | .union                => "only 'X | None' unions are supported"
  | .unnamedVariable      => "type variable needs a name"
  | .missingBound         => "missing upper bound after ':'"
  | .emptyArgument        => "empty type argument"
  | .optionalArguments    => "Optional takes one argument"
  | .containerArguments c => c ++ " takes one argument"
  | .notDotted name       => "'" ++ name ++ "' is not a dotted name"
  | .noComponent          => "array without a component type"
  | .notPrimitive         => "not a primitive reference"

/-- What can be wrong with a reference handed in by a caller. -/
inductive TypeFault where
  | invalid (text : String) (flaw : TypeFlaw)
  | unknownPrimitive (name : String)
  | unmappedPrimitive (name : String)
  deriving DecidableEq, Repr

def TypeFault.report : TypeFault → Report
  | .invalid text flaw      => .invalidTypeRef text flaw.reason
  | .unknownPrimitive name  => .unknownPrimitive name
  | .unmappedPrimitive name => .unmappedPrimitive name

end TypeCatalog
