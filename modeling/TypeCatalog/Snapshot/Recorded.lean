import TypeCatalog.Element
import TypeCatalog.Report
import TypeCatalog.Snapshot
import TypeCatalog.TypeRef
import TypeCatalog.Value.Parts

/-! # Snapshots — recorded values

In an index the values of annotations are fixed: lists become tuples, and a mapping of a name and
values becomes a nested annotation.  Other values stay as they are.  A list or an annotation that is
inside itself has no recorded form.

* `recordValue`: a value of a snapshot as it is recorded.
* `writtenValue`: a recorded value as a snapshot writes it.
-/

namespace TypeCatalog

/-- What is wrong inside a class entry: a type that cannot be read, a mapping in an annotation that
has the shape of a nested annotation without being one, or a value that has no end. -/
inductive EntryFault where
  | type (fault : TypeFault)
  | nested (complaints : List Complaint)
  | endless

/-- Applies `f` to all items, up to the first fault. -/
def forEach {α β ε : Type} (f : α → Except ε β) : List α → Except ε (List β)
  | []      => .ok []
  | a :: as =>
      match f a with
      | .error e => .error e
      | .ok b    => (forEach f as).map (b :: ·)

/-- Applies `f` to all values, which keep their names. -/
def forValues {α β ε : Type} (f : α → Except ε β) (vs : List (String × α)) :
    Except ε (List (String × β)) :=
  forEach (fun p => (f p.2).map fun w => (p.1, w)) vs

/-- The keys are `name` and `values`, which makes a mapping a nested annotation. -/
def isNestedShape (es : List (Value × Value)) : Bool :=
  es.length == 2 && (Value.field? "name" es).isSome && (Value.field? "values" es).isSome

/-- A value as it is recorded, where so many levels are enough: lists are fixed and nested
annotations recognised. -/
def recordTo : (levels : Nat) → Value → Except EntryFault Value
  | 0,          _ => .error .endless
  | levels + 1, v =>
      match v.opened with
      | .list xs => (forEach (recordTo levels) xs).map .tuple
      | .dict es =>
          if isNestedShape es then
            match AnnotationEntry.check v with
            | .valid entry =>
                (forValues (recordTo levels) entry.values).map fun vs =>
                  .nested entry.name vs none none
            | c            => .error (.nested c.complaints)
          else .ok v
      | _        => .ok v

/-- A value as it is recorded.  A way into it that is longer than there are values to be met has no
end. -/
def recordValue (v : Value) : Except EntryFault Value := recordTo v.family.length v

/-- The properties of an annotation as they are recorded. -/
def recordProperties (vs : Entries String Value) : Except EntryFault (Entries String Value) :=
  forValues recordValue vs

/-- The annotation an entry describes, recorded for an element. -/
def AnnotationEntry.instance? (kind : ElementKind) (position : Option Int)
    (e : AnnotationEntry) : Except EntryFault AnnotationRecord :=
  (recordProperties e.values).map fun vs => ⟨e.name, vs, some kind, position⟩

def recordedFor (kind : ElementKind) (position : Option Int) (es : List AnnotationEntry) :
    Except EntryFault (List AnnotationRecord) :=
  forEach (AnnotationEntry.instance? kind position) es

/-! ### Back to the snapshot -/

mutual

/-- A recorded value as a snapshot writes it. -/
def writtenValue : Value → Value
  | .tuple xs         => .list (writtenItems xs)
  | .nested n vs _ _  => .ofFields [("name", .text n), ("values", .dict (writtenNamed vs))]
  | v                 => v

def writtenItems : List Value → List Value
  | []      => []
  | x :: xs => writtenValue x :: writtenItems xs

def writtenNamed : List (String × Value) → List (Value × Value)
  | []           => []
  | (n, v) :: vs => (.text n, writtenValue v) :: writtenNamed vs

end

/-- A recorded annotation as a snapshot writes it. -/
def AnnotationRecord.written (a : AnnotationRecord) : Value := writtenValue a.toValue

end TypeCatalog
