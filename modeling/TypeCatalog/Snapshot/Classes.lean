import TypeCatalog.Snapshot.Recorded
import TypeCatalog.TypeRef.Canonical
import TypeCatalog.TypeRef.Reader

/-! # Snapshots — classes

The metadata that the entries of a snapshot describe.  Reading stops at the first fault.

* `ClassEntry.info`: the metadata of a class.
-/

namespace TypeCatalog

/-- The type a text refers to. -/
def readType (text : String) : Except EntryFault TypeRef := (TypeRef.ofText text).mapError .type

/-- The canonical name of the type a text refers to. -/
def readName (text : String) : Except EntryFault String :=
  (readType text).bind fun r => r.canonicalName.mapError .type

def MemberEntry.fieldInfo (e : MemberEntry) : Except EntryFault FieldInfo := do
  let type ← readType e.type
  let annotations ← recordedFor .field none e.annotations
  return ⟨e.name, type, annotations⟩

/-- The annotations of the parameters from position `i` on. -/
def parameterAnnotations : (i : Nat) → List MemberEntry → Except EntryFault (List AnnotationRecord)
  | _, []      => .ok []
  | i, p :: ps => do
      let own ← recordedFor .parameter (some i) p.annotations
      let rest ← parameterAnnotations (i + 1) ps
      return own ++ rest

def readReturn : Option String → Except EntryFault (Option TypeRef)
  | none      => .ok none
  | some text => (readType text).map some

def MethodEntry.info (e : MethodEntry) : Except EntryFault MethodInfo := do
  let own ← recordedFor .method none e.annotations
  let parameters ← parameterAnnotations 0 e.parameters
  let returnType ← readReturn e.returnType
  let types ← forEach (fun p => readType p.type) e.parameters
  return ⟨e.name, e.parameters.map MemberEntry.name, types, returnType, own ++ parameters⟩

/-- The superclass; an empty text is none. -/
def readSuperclass : Option String → Except EntryFault (Option TypeRef)
  | none      => .ok none
  | some text => if text = "" then .ok none else (readType text).map some

def ClassEntry.info (e : ClassEntry) : Except EntryFault ClassInfo := do
  let superclass ← readSuperclass e.superclass
  let interfaces ← forEach readName e.interfaces
  let annotations ← recordedFor .classType none e.annotations
  let fields ← forEach MemberEntry.fieldInfo e.fields
  let methods ← forEach MethodEntry.info e.methods
  return ⟨e.name, superclass, interfaces, annotations, fields, methods⟩

end TypeCatalog
