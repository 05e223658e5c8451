import TypeCatalog.Element

/-! # Program elements — their annotations

Every element has a list of annotations, found by its kind: classes, fields and types have the ones
stored with them, a method those of its storage that are not a parameter's, and a parameter those
of the method's storage recorded as a parameter's at its position.  An absent element has none.
-/

namespace TypeCatalog

namespace AnnotationRecord

/-- Recorded for a parameter of the method it is stored with. -/
def isParameters (a : AnnotationRecord) : Bool := a.target == some .parameter

/-- Recorded for the parameter at `position`. -/
def isAt (position : Int) (a : AnnotationRecord) : Bool :=
  a.isParameters && a.position == some position

theorem isParameters_iff {a : AnnotationRecord} :
    a.isParameters = true ↔ a.target = some .parameter := by
  simp [isParameters]

theorem isAt_iff {position : Int} {a : AnnotationRecord} :
    a.isAt position = true ↔ a.target = some .parameter ∧ a.position = some position := by
  simp [isAt, isParameters]

end AnnotationRecord

namespace Element

/-- The annotations of an element, in the order of their storage. -/
def annotations : Element → List AnnotationRecord
  | .ofClass c              => c.annotations
  | .field _ f              => f.annotations
  | .type r                 => r.annotations
  | .method _ m             => m.annotations.filter fun a => !a.isParameters
  | .parameter _ m position => m.annotations.filter (AnnotationRecord.isAt position)

/-- The annotations of an element that may be absent. -/
def annotationsOf (e : Option Element) : List AnnotationRecord := (e.map annotations).getD []

/-- The first annotation with the name. -/
def find? (e : Option Element) (name : String) : Option AnnotationRecord :=
  (annotationsOf e).find? fun a => a.name == name

def has (e : Option Element) (name : String) : Bool := (find? e name).isSome

/-- The name of the annotation that describes a schema. -/
def schemaName : String := "Schema"

def schema? (e : Option Element) : Option AnnotationRecord := find? e schemaName

/-- A property of the first annotation with the name; `default` if either is missing. -/
def valueOf (e : Option Element) (name property : String) (default : Value) : Value :=
  match find? e name with
  | some a => a.value property default
  | none   => default

end Element

end TypeCatalog
