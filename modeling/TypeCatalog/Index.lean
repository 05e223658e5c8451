import TypeCatalog.Element

/-! # Indexes of classes

An index holds the metadata of the classes that are known, by name.  It is never complete: a name
that is absent is not indexed, which does not say that there is no such class.

* `ClassIndex.get?_ofClasses`: a look-up finds the last class with the name.
-/

namespace TypeCatalog

/-- Classes by name, in the order their names first came. -/
abbrev ClassIndex : Type := OrderedMap String ClassInfo

namespace ClassIndex

def ofClasses (classes : List ClassInfo) : ClassIndex := .ofList (classes.map fun c => (c.name, c))

def classes (index : ClassIndex) : List ClassInfo := index.values

/-- The line that sums an index up. -/
def summary (index : ClassIndex) : String :=
  "ClassIndex(" ++ toString index.size ++ " classes)"

theorem get?_insertAll (index : ClassIndex) (classes : List ClassInfo) (name : String) :
    (index.insertAll (classes.map fun c => (c.name, c))).get? name
      = ((classes.reverse.find? fun c => c.name == name).or (index.get? name)) := by
  induction classes generalizing index with
  | nil => simp [OrderedMap.insertAll, Entries.putAll, OrderedMap.get?]
  | cons c classes ih =>
      rw [List.map_cons, OrderedMap.insertAll_cons, ih, OrderedMap.get?_insert, List.reverse_cons,
        List.find?_append]
      by_cases h : c.name = name <;> simp [h]

/-- A look-up finds the last class with the name. -/
theorem get?_ofClasses (classes : List ClassInfo) (name : String) :
    (ofClasses classes).get? name = classes.reverse.find? fun c => c.name == name := by
  rw [ofClasses, OrderedMap.ofList, get?_insertAll]
  simp

end ClassIndex

end TypeCatalog
