import TypeCatalog.Proofs.Index
import TypeCatalog.Proofs.Subtype.Larger

/-! # Subtypes — lists in another order

All that a test asks of an index is what stands under names.  It does not see in which order the
classes are listed, so two indexes with the same look-ups give the same test: the same names are
looked up, the same is asked of the live classes, and the answer is the same.

Of a list of classes, the look-ups show the last class of each name.  The list may be put in another
order, as long as classes with one name stay in theirs.

* `climb_congr`: by induction on the climb, it is the same in an index with the same look-ups.
* `test_congr`: so is a test.
* `ofClasses_reordered`: what an index holds, finds and answers, by the list it is made of.
-/

namespace TypeCatalog.Subtype

open Live (ClassSource)
open ClassIndex (IsLast IsReordering)

/-! ### The same look-ups -/

section

variable {index other : ClassIndex} (same : ∀ name, other.get? name = index.get? name)

include same

/-- **A climb** is the same in an index with the same look-ups. -/
theorem climb_congr (target : String) (met : List String) (above : Option TypeRef) :
    climb other target met above = climb index target met above := by
  fun_induction climb index target met above with
  | case1 met => rw [climb]
  | case2 met r fault hr => rw [climb, hr]
  | case3 met r hr => exact climb_target other hr
  | case4 met r n hr hn hm => rw [climb_other other hr hn, if_pos hm]
  | case5 met r n hr hn hm hi =>
      rw [climb_other other hr hn, if_neg (Bool.eq_false_iff.1 hm), same n, hi]
  | case6 met r n hr hn hm info hi rest ih => rw [climb_step hr hn hm ((same n).trans hi), ih]

theorem walk_congr (info : ClassInfo) (target : String) :
    walk other info target = walk index info target := by
  rw [walk, walk, climb_congr same]

theorem ask_congr (reflexive : Bool) (subject target : TypeRef) :
    ask reflexive other subject target = ask reflexive index subject target := by
  have names : ∀ s t, askNames reflexive other s t = askNames reflexive index s t := by
    intro s t
    simp only [askNames, same, walk_congr same]
  simp only [ask, names]

/-- **A test** is the same in an index with the same look-ups. -/
theorem test_congr {σ Class : Type} (options : Options) (source : ClassSource σ Class)
    (subject target : TypeRef) (state : σ) :
    test options source other subject target state
      = test options source index subject target state := by
  simp only [test, ask_congr same]

end

/-! ### Lists of classes -/

/-- **An index made of a list.**  A look-up finds the last class with the name, and none just if
there is none; the index contains a name if the look-up finds it; there are as many classes in it as
there are names in the list; those that are listed are the last ones of their names, in the order in
which the names first come, each before the next.  If the list is put in another order that keeps
the order of classes with one name, then the look-ups are the same, and so is every test: its
answer, and all that was asked for it. -/
theorem ofClasses_reordered (classes : List ClassInfo) :
    let index := ClassIndex.ofClasses classes
    let names := classes.map ClassInfo.name
    (∀ name info, index.get? name = some info ↔ info.name = name ∧ IsLast classes info) ∧
    (∀ name, index.get? name = none ↔ ∀ c ∈ classes, c.name ≠ name) ∧
    (∀ name, index.contains name = true ↔ ∃ info, index.get? name = some info) ∧
    index.size = names.toFinset.card ∧
    (∀ info, info ∈ index.classes ↔ IsLast classes info) ∧
    (index.classes.Pairwise fun c d => names.idxOf c.name < names.idxOf d.name) ∧
    ∀ other, IsReordering classes other →
      (∀ name, (ClassIndex.ofClasses other).get? name = index.get? name) ∧
      ∀ {σ Class : Type} (options : Options) (source : ClassSource σ Class)
        (subject target : TypeRef) (state : σ),
        test options source (ClassIndex.ofClasses other) subject target state
          = test options source index subject target state := by
  intro index names
  refine ⟨fun name info => ClassIndex.get?_ofClasses_eq_some_iff,
    fun name => ClassIndex.get?_ofClasses_eq_none_iff, fun name => ClassIndex.contains_iff,
    ClassIndex.size_ofClasses classes, fun info => ClassIndex.mem_classes_iff,
    ClassIndex.pairwise_classes classes, fun other h => ?_⟩
  have same : ∀ name, (ClassIndex.ofClasses other).get? name = index.get? name := h.get?_eq
  exact ⟨same, test_congr same⟩

/-- Of two classes with one name the later counts, also where a class between them is moved. -/
theorem ofClasses_reordered_twice :
    let first := belowInfo "app.A" "app.B"
    let between := belowInfo "app.B" "app.C"
    let second := belowInfo "app.A" "app.D"
    let index := ClassIndex.ofClasses [first, between, second]
    let other := ClassIndex.ofClasses [between, first, second]
    let options : Options := ⟨false, false⟩
    IsReordering [first, between, second] [between, first, second] ∧
      index.get? "app.A" = some second ∧ other.get? "app.A" = some second ∧
      index.classes = [second, between] ∧ other.classes = [between, second] ∧
      test options standardSource other (.ofClass "app.A") (.ofClass "app.D") []
        = test options standardSource index (.ofClass "app.A") (.ofClass "app.D") [] := by
  intro first between second index other options
  have moved : IsReordering [first, between, second] [between, first, second] :=
    ClassIndex.isReordering_swap (by decide) [second]
  obtain ⟨-, -, -, -, -, -, same⟩ := ofClasses_reordered [first, between, second]
  obtain ⟨lookups, tests⟩ := same _ moved
  have found : index.get? "app.A" = some second := rfl
  exact ⟨moved, found, (lookups "app.A").trans found, rfl, rfl, tests options standardSource _ _ []⟩

end TypeCatalog.Subtype
