import Mathlib.Data.Finset.Card
import TypeCatalog.Index
import TypeCatalog.Proofs.Ordered

/-! # Indexes of classes — what a list leaves in them

An index is made of a list of classes in which a name may come more than once.  Of several classes
with one name the last counts, in the place where the name first came.

A look-up does not see the places.  What it finds under a name is decided by the classes with that
name and their order among themselves (`get?_eq_getLast?`), so that classes with different names may
change places.

* `IsLast`: the classes that count.
* `get?_ofClasses_eq_some_iff`, `mem_classes_iff`: these are found, and these are listed.
* `size_ofClasses`, `pairwise_classes`: there is one for each name, in the order of the names.
* `IsReordering.get?_eq`: a list in another order has the same look-ups.
-/

namespace TypeCatalog

/-! ### Entries -/

namespace Entries

variable {κ α : Type} [DecidableEq κ]

theorem ofList_concat (es : Entries κ α) (e : κ × α) :
    ofList (es ++ [e]) = put e.1 e.2 (ofList es) := by
  rw [ofList, putAll, List.foldl_append]
  rfl

theorem mem_keys_ofList {es : Entries κ α} {k : κ} : k ∈ keys (ofList es) ↔ k ∈ keys es := by
  rw [ofList, mem_keys_putAll]
  exact or_iff_right List.not_mem_nil

/-- **Keys stand** in the order in which they first came. -/
theorem pairwise_keys_ofList (es : Entries κ α) :
    (keys (ofList es)).Pairwise fun j k => (keys es).idxOf j < (keys es).idxOf k := by
  induction es using List.reverseRecOn with
  | nil => exact .nil
  | append_singleton es e ih =>
      have concat : keys (es ++ [e]) = keys es ++ [e.1] := by simp [keys]
      have there : ∀ k ∈ keys (ofList es), (keys es ++ [e.1]).idxOf k = (keys es).idxOf k :=
        fun k hk => List.idxOf_append_of_mem (mem_keys_ofList.1 hk)
      have before : (keys (ofList es)).Pairwise fun j k =>
          (keys es ++ [e.1]).idxOf j < (keys es ++ [e.1]).idxOf k := by
        refine ih.imp_of_mem fun {j k} hj hk hjk => ?_
        rwa [there j hj, there k hk]
      rw [ofList_concat, keys_put, concat]
      split
      · exact before
      · -- a new key comes first after all that are there
        rename_i new
        refine List.pairwise_append.2 ⟨before, List.pairwise_singleton _ _, fun j hj k hk => ?_⟩
        obtain rfl := List.mem_singleton.1 hk
        have hj' : j ∈ keys es := mem_keys_ofList.1 hj
        have hk' : e.1 ∉ keys es := fun h => new (mem_keys_ofList.2 h)
        have := List.idxOf_lt_length_of_mem hj'
        rw [there j hj, List.idxOf_append_of_notMem hk']
        omega

end Entries

namespace ClassIndex

/-- `info` is the last class of its name in the list. -/
def IsLast (classes : List ClassInfo) (info : ClassInfo) : Prop :=
  ∃ front back, classes = front ++ info :: back ∧ ∀ c ∈ back, c.name ≠ info.name

/-- `other` is the list in another order, in which the classes of each name follow one another as
before. -/
structure IsReordering (classes other : List ClassInfo) : Prop where
  perm : other.Perm classes
  sameNamed : ∀ name,
    other.filter (fun c => c.name == name) = classes.filter fun c => c.name == name

variable {classes other : List ClassInfo} {name : String} {info : ClassInfo}

/-! ### Look-ups -/

/-- A look-up finds the last of the classes with the name. -/
theorem get?_eq_getLast? (classes : List ClassInfo) (name : String) :
    (ofClasses classes).get? name = (classes.filter fun c => c.name == name).getLast? := by
  rw [get?_ofClasses, ← List.head?_filter, List.filter_reverse, List.head?_reverse]

theorem get?_ofClasses_eq_some_iff :
    (ofClasses classes).get? name = some info ↔ info.name = name ∧ IsLast classes info := by
  rw [get?_ofClasses, List.find?_eq_some_iff_append]
  simp only [beq_iff_eq, IsLast]
  refine and_congr_right fun hn => ?_
  subst hn
  constructor
  · rintro ⟨back, front, hc, hb⟩
    refine ⟨front.reverse, back.reverse, ?_, ?_⟩
    · rw [← List.reverse_reverse classes, hc]
      simp
    · simpa using hb
  · rintro ⟨front, back, rfl, hb⟩
    exact ⟨back.reverse, front.reverse, by simp, by simpa using hb⟩

theorem get?_ofClasses_eq_none_iff :
    (ofClasses classes).get? name = none ↔ ∀ c ∈ classes, c.name ≠ name := by
  simp [get?_ofClasses]

/-- **A list in another order** has the same look-ups. -/
theorem IsReordering.get?_eq (h : IsReordering classes other) (name : String) :
    (ofClasses other).get? name = (ofClasses classes).get? name := by
  rw [get?_eq_getLast?, get?_eq_getLast?, h.sameNamed]

/-- Two classes with different names may change places. -/
theorem isReordering_swap {c d : ClassInfo} (h : c.name ≠ d.name) (rest : List ClassInfo) :
    IsReordering (c :: d :: rest) (d :: c :: rest) where
  perm := .swap c d rest
  sameNamed name := by
    by_cases hc : c.name = name
    · have hd : d.name ≠ name := fun hd => h (hc.trans hd.symm)
      simp [hc, hd]
    · simp [List.filter_cons, hc]

/-! ### What is listed -/

theorem contains_iff {index : ClassIndex} :
    index.contains name = true ↔ ∃ info, index.get? name = some info :=
  Option.isSome_iff_exists

/-- A class that is listed stands under its name. -/
theorem mem_classes_iff : info ∈ (ofClasses classes).classes ↔ IsLast classes info := by
  have found : info ∈ (ofClasses classes).classes ↔
      ∃ name, (ofClasses classes).get? name = some info := by
    simp [ClassIndex.classes, OrderedMap.values, OrderedMap.get?_eq_some_iff]
  simp [found, get?_ofClasses_eq_some_iff]

/-- The names of the classes that are listed are the keys. -/
theorem map_name_classes (classes : List ClassInfo) :
    (ofClasses classes).classes.map ClassInfo.name = (ofClasses classes).keys := by
  rw [ClassIndex.classes, OrderedMap.values, OrderedMap.keys, Entries.keys, List.map_map]
  refine List.map_congr_left fun e he => ?_
  have found : (ofClasses classes).get? e.1 = some e.2 := OrderedMap.get?_eq_some_iff.2 he
  exact (get?_ofClasses_eq_some_iff.1 found).1

theorem keys_entries (classes : List ClassInfo) :
    Entries.keys (classes.map fun c => (c.name, c)) = classes.map ClassInfo.name := by
  simp [Entries.keys]

/-- There are as many classes as there are names. -/
theorem size_ofClasses (classes : List ClassInfo) :
    (ofClasses classes).size = (classes.map ClassInfo.name).toFinset.card := by
  have same : (ofClasses classes).keys.toFinset = (classes.map ClassInfo.name).toFinset := by
    ext name
    rw [List.mem_toFinset, List.mem_toFinset, ← keys_entries]
    exact Entries.mem_keys_ofList
  have nodup : (ofClasses classes).keys.Nodup := (ofClasses classes).nodup
  rw [← same, List.toFinset_card_of_nodup nodup]
  exact (List.length_map _).symm

/-- The classes are listed in the order in which their names first came. -/
theorem pairwise_classes (classes : List ClassInfo) :
    (ofClasses classes).classes.Pairwise fun c d =>
      (classes.map ClassInfo.name).idxOf c.name < (classes.map ClassInfo.name).idxOf d.name := by
  have order : (ofClasses classes).keys.Pairwise fun j k =>
      (classes.map ClassInfo.name).idxOf j < (classes.map ClassInfo.name).idxOf k := by
    rw [← keys_entries]
    exact Entries.pairwise_keys_ofList _
  rwa [← map_name_classes, List.pairwise_map] at order

end ClassIndex

end TypeCatalog
