import TypeCatalog.Checked

/-! # Snapshots of an index

A snapshot is a document that lists classes with their members and annotations, types written as
references.  It is checked as a whole before any of its types is read.

* `Snapshot.check`: a document as a snapshot.
-/

namespace TypeCatalog

/-! ### Entries -/

structure AnnotationEntry where
  name : String
  values : Entries String Value

/-- A field or a parameter. -/
structure MemberEntry where
  name : String
  type : String
  annotations : List AnnotationEntry

structure MethodEntry where
  name : String
  returnType : Option String
  parameters : List MemberEntry
  annotations : List AnnotationEntry

structure ClassEntry where
  name : String
  superclass : Option String
  interfaces : List String
  annotations : List AnnotationEntry
  fields : List MemberEntry
  methods : List MethodEntry

structure Snapshot where
  classes : List ClassEntry

/-! ### Checking -/

namespace AnnotationEntry

def check (v : Value) : Checked AnnotationEntry :=
  (Checked.record "AnnotationEntry" v).andThen fun es =>
    ((Checked.field v es "name" Checked.text).and
      ((Checked.fieldOr es "values" [] (Checked.mapping .valid)).and
        (Checked.onlyFields ["name", "values"] es))).map
      fun p => ⟨p.1, p.2.1⟩

end AnnotationEntry

/-- The annotations of an entry. -/
def checkAnnotations (es : List (Value × Value)) : Checked (List AnnotationEntry) :=
  Checked.fieldOr es "annotations" [] (Checked.list AnnotationEntry.check)

namespace MemberEntry

/-- `kind` names the kind of member in complaints. -/
def check (kind : String) (v : Value) : Checked MemberEntry :=
  (Checked.record kind v).andThen fun es =>
    ((Checked.field v es "name" Checked.text).and
      ((Checked.field v es "type" Checked.text).and
        ((checkAnnotations es).and
          (Checked.onlyFields ["name", "type", "annotations"] es)))).map
      fun p => ⟨p.1, p.2.1, p.2.2.1⟩

end MemberEntry

namespace MethodEntry

def check (v : Value) : Checked MethodEntry :=
  (Checked.record "MethodEntry" v).andThen fun es =>
    ((Checked.field v es "name" Checked.text).and
      ((Checked.fieldOr es "return_type" none (Checked.nullable Checked.text)).and
        ((Checked.fieldOr es "parameters" []
            (Checked.list (MemberEntry.check "ParameterEntry"))).and
          ((checkAnnotations es).and
            (Checked.onlyFields ["name", "return_type", "parameters", "annotations"] es))))).map
      fun p => ⟨p.1, p.2.1, p.2.2.1, p.2.2.2.1⟩

end MethodEntry

namespace ClassEntry

def fieldNames : List String :=
  ["name", "superclass", "interfaces", "annotations", "fields", "methods"]

def check (v : Value) : Checked ClassEntry :=
  (Checked.record "ClassEntry" v).andThen fun es =>
    ((Checked.field v es "name" Checked.text).and
      ((Checked.fieldOr es "superclass" none (Checked.nullable Checked.text)).and
        ((Checked.fieldOr es "interfaces" [] (Checked.list Checked.text)).and
          ((checkAnnotations es).and
            ((Checked.fieldOr es "fields" []
                (Checked.list (MemberEntry.check "FieldEntry"))).and
              ((Checked.fieldOr es "methods" [] (Checked.list MethodEntry.check)).and
                (Checked.onlyFields fieldNames es))))))).map
      fun p => ⟨p.1, p.2.1, p.2.2.1, p.2.2.2.1, p.2.2.2.2.1, p.2.2.2.2.2.1⟩

end ClassEntry

namespace Snapshot

def check (v : Value) : Checked Snapshot :=
  (Checked.record "IndexSnapshot" v).andThen fun es =>
    ((Checked.fieldOr es "classes" [] (Checked.list ClassEntry.check)).and
      (Checked.onlyFields ["classes"] es)).map
      fun p => ⟨p.1⟩

end Snapshot

end TypeCatalog
