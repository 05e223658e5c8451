import TypeCatalog.Proofs.Format.Variables
import TypeCatalog.Proofs.Ordered

/-! # Schema formats — layers of overrides

Overrides are layered over a table as one ordered map over another.  A name that is listed keeps its
place and takes the new format; other names are added at the end, in the order they are given.  So
a layer over a layer is one layer, and any number of layers are one.

What a layer does to classification is what it does to look-ups: a reference takes the format of the
override for its name, if there is one, and is otherwise classified as before.  An array is not
looked up, so that no override reaches it.

* `withOverrides_withOverrides`, `foldl_withOverrides`: two layers are one, and so are any number.
* `classify_withOverrides`: a layer seen through classification.
* `withOverrides_layers`: all of this for every table and every layer.
-/

namespace TypeCatalog.FormatTable

variable (t : FormatTable) (a : OrderedMap String Format)

/-! ### Layers over layers -/

theorem withOverrides_withOverrides (b : OrderedMap String Format) :
    (t.withOverrides a.entries).withOverrides b.entries
      = t.withOverrides (a.insertAll b.entries).entries :=
  OrderedMap.insertAll_insertAll t a b

/-- Any number of layers are one: the first of them, updated by each of the others. -/
theorem foldl_withOverrides (layers : List (OrderedMap String Format)) :
    layers.foldl (fun t b => t.withOverrides b.entries) (t.withOverrides a.entries)
      = t.withOverrides (layers.foldl (fun a b => a.insertAll b.entries) a).entries := by
  induction layers generalizing a with
  | nil => rfl
  | cons b layers ih =>
      rw [List.foldl_cons, List.foldl_cons, withOverrides_withOverrides]
      exact ih (a.insertAll b.entries)

/-! ### What a layer does -/

theorem keys_withOverrides :
    (t.withOverrides a.entries).keys = t.keys ++ a.keys.filter (· ∉ t.keys) :=
  OrderedMap.keys_insertAll t a

theorem get?_withOverrides (name : String) :
    (t.withOverrides a.entries).get? name = (a.get? name).or (t.get? name) :=
  OrderedMap.get?_insertAll t a name

variable {t a}

theorem ofName_withOverrides (name : String) :
    (t.withOverrides a.entries).ofName name = (a.get? name).getD (t.ofName name) := by
  rw [ofName, ofName, get?_withOverrides]
  cases a.get? name <;> rfl

/-- A reference that is no array takes the format of the override for its name, if there is one. -/
theorem classify_withOverrides {r : TypeRef} {name : String} (h : r.kind ≠ .array)
    (hn : r.canonicalName = .ok name) :
    (t.withOverrides a.entries).classify r
      = match a.get? name with
        | some f => .ok f
        | none   => t.classify r := by
  rw [classify_of_ne_array _ h, classify_of_ne_array _ h, hn]
  simp only [Except.map, ofName_withOverrides]
  cases a.get? name <;> rfl

variable (t a)

/-- **Overrides are layered like ordered maps.**  Let `a` be a layer over a table `t`.  The layered
table is a table of its own, and a layer without overrides is `t`.  A further layer `b` gives the
same entries, in the same order, as one layer of `a` updated by `b`, and so do any number of further
layers.  The names of `t` keep their order and places, and those that are new follow in the order
they are given; each has the format that `a` gives it, or else the one it has in `t`.  A reference
that is no array and has a name is classified as the override for the name if there is one, and as
`t` classifies it otherwise; and every array is an array, whatever is overridden. -/
theorem withOverrides_layers :
    t.withOverrides OrderedMap.empty.entries = t ∧
    (∀ b : OrderedMap String Format,
      (t.withOverrides a.entries).withOverrides b.entries
        = t.withOverrides (a.insertAll b.entries).entries) ∧
    (∀ layers : List (OrderedMap String Format),
      layers.foldl (fun t b => t.withOverrides b.entries) (t.withOverrides a.entries)
        = t.withOverrides (layers.foldl (fun a b => a.insertAll b.entries) a).entries) ∧
    (t.withOverrides a.entries).keys = t.keys ++ a.keys.filter (· ∉ t.keys) ∧
    (∀ name, (t.withOverrides a.entries).get? name = (a.get? name).or (t.get? name)) ∧
    (∀ (r : TypeRef) (name : String), r.kind ≠ .array → r.canonicalName = .ok name →
      (t.withOverrides a.entries).classify r
        = match a.get? name with
          | some f => .ok f
          | none   => t.classify r) ∧
    ∀ r : TypeRef, r.kind = .array → (t.withOverrides a.entries).classify r = .ok ⟨.array, .none⟩ :=
  ⟨rfl, withOverrides_withOverrides t a, foldl_withOverrides t a, keys_withOverrides t a,
    get?_withOverrides t a, fun _ _ => classify_withOverrides, fun _ => classify_of_array _⟩

/-- Two layers over a table of two names: the first replaces one and adds another, the second
replaces the one that was added and the one that was kept, and adds a third. -/
example :
    let t : FormatTable := .ofList [("a", ⟨.string, .none⟩), ("b", ⟨.number, .none⟩)]
    let first : Entries String Format := [("c", ⟨.string, .date⟩), ("a", ⟨.number, .double⟩)]
    let second : Entries String Format :=
      [("d", ⟨.boolean, .none⟩), ("b", ⟨.integer, .int32⟩), ("c", ⟨.string, .byte⟩)]
    ((t.withOverrides first).withOverrides second).entries
      = [("a", ⟨.number, .double⟩), ("b", ⟨.integer, .int32⟩), ("c", ⟨.string, .byte⟩),
        ("d", ⟨.boolean, .none⟩)] := by
  decide

end TypeCatalog.FormatTable
