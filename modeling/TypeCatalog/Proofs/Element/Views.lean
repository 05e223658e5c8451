import Mathlib.Algebra.GroupWithZero.Nat
import Mathlib.Data.List.Count
import Mathlib.Data.List.Nodup
import Mathlib.Data.List.Perm.Basic
import Mathlib.Data.List.Range
import TypeCatalog.Element.Views

/-! # Program elements — the views of a method's storage

A method stores what is recorded for it and for its parameters in one list, in any order.  What is
asked for is a view of the storage: one for the method, and one for each of its parameters.  An
annotation recorded for a parameter that the method does not have is in none of them.

Every stored annotation has one place: it is in one of the views or is an orphan, and never in two.
So the views and the orphans together are the storage, dealt out.

* `perm_flatMap_filter`: a list is dealt out by tests of which each item passes just one.
* `MethodInfo.perm_views`: a storage is dealt out to the views and the orphans.
* `MethodInfo.views_partition`: what is in each view, and that nothing is lost or doubled.
-/

namespace TypeCatalog

/-! ### Dealing out a list -/

section

variable {α : Type} {ps : List (α → Bool)} {l : List α}

/-- One more item is dealt to every test it passes. -/
theorem flatMap_filter_cons (a : α) (ps : List (α → Bool)) (l : List α) :
    (ps.flatMap fun p => (a :: l).filter p).Perm
      (List.replicate (ps.countP fun p => p a) a ++ ps.flatMap fun p => l.filter p) := by
  induction ps with
  | nil => exact .nil
  | cons p ps ih =>
      rw [List.flatMap_cons, List.flatMap_cons, List.countP_cons]
      by_cases h : p a = true
      · rw [List.filter_cons_of_pos h, if_pos h, List.replicate_succ]
        exact ((ih.append_left _).trans (List.perm_append_comm_assoc _ _ _)).cons a
      · rw [List.filter_cons_of_neg h, if_neg h]
        exact (ih.append_left _).trans (List.perm_append_comm_assoc _ _ _)

/-- **A list is dealt out by tests** of which each of its items passes just one. -/
theorem perm_flatMap_filter (h : ∀ a ∈ l, (ps.countP fun p => p a) = 1) :
    l.Perm (ps.flatMap fun p => l.filter p) := by
  induction l with
  | nil => simp
  | cons a l ih =>
      obtain ⟨ha, hl⟩ := List.forall_mem_cons.1 h
      have dealt := flatMap_filter_cons a ps l
      rw [ha] at dealt
      exact ((ih hl).cons a).trans dealt.symm

end

/-! ### Views -/

namespace MethodInfo

/-- What is asked for of a method: its own annotations, and those of each of its parameters. -/
def views (owner : ClassInfo) (m : MethodInfo) : List (List AnnotationRecord) :=
  (Element.method owner m).annotations ::
    (List.range m.parameterTypes.length).map fun i : Nat =>
      (Element.parameter owner m i).annotations

/-- Recorded for a parameter, but at no position of a parameter of the method. -/
def isOrphan (m : MethodInfo) (a : AnnotationRecord) : Bool :=
  a.isParameters && !a.position.any m.hasParameter

/-- What is stored with a method and is in none of its views. -/
def orphans (m : MethodInfo) : List AnnotationRecord := m.annotations.filter m.isOrphan

variable {owner : ClassInfo} {m : MethodInfo} {a : AnnotationRecord}

theorem hasParameter_iff {p : Int} :
    m.hasParameter p = true ↔ ∃ i : Nat, i < m.parameterTypes.length ∧ (i : Int) = p := by
  rw [hasParameter, Bool.and_eq_true, decide_eq_true_iff, decide_eq_true_iff]
  constructor
  · rintro ⟨h0, h⟩
    exact ⟨p.toNat, by omega, Int.toNat_of_nonneg h0⟩
  · rintro ⟨i, hi, rfl⟩
    exact ⟨Int.natCast_nonneg i, Int.ofNat_lt.2 hi⟩

theorem isOrphan_iff :
    m.isOrphan a = true ↔ a.target = some .parameter ∧
      ∀ p, a.position = some p → p < 0 ∨ (m.parameterTypes.length : Int) ≤ p := by
  have outside (p : Int) : m.hasParameter p = false ↔
      p < 0 ∨ (m.parameterTypes.length : Int) ≤ p := by
    rw [hasParameter, Bool.and_eq_false_iff, decide_eq_false_iff_not, decide_eq_false_iff_not]
    omega
  rw [isOrphan, Bool.and_eq_true, AnnotationRecord.isParameters_iff]
  cases hp : a.position with
  | none => simp
  | some p => simp [outside]

/-- A method has a parameter at each of its positions. -/
theorem parameter_eq_ok (owner : ClassInfo) (m : MethodInfo) (i : Fin m.parameterTypes.length) :
    m.parameter owner i.val = .ok (.parameter owner m i.val) := by
  rw [parameter, if_pos (hasParameter_iff.2 ⟨i, i.isLt, rfl⟩)]

/-! ### What is in them -/

theorem mem_method_annotations_iff :
    a ∈ (Element.method owner m).annotations ↔
      a ∈ m.annotations ∧ a.target ≠ some .parameter := by
  simp [Element.annotations, AnnotationRecord.isParameters]

theorem mem_parameter_annotations_iff {p : Int} :
    a ∈ (Element.parameter owner m p).annotations ↔
      a ∈ m.annotations ∧ a.target = some .parameter ∧ a.position = some p := by
  rw [Element.annotations, List.mem_filter, AnnotationRecord.isAt_iff]

theorem mem_orphans_iff :
    a ∈ m.orphans ↔ a ∈ m.annotations ∧ a.target = some .parameter ∧
      ∀ p, a.position = some p → p < 0 ∨ (m.parameterTypes.length : Int) ≤ p := by
  rw [orphans, List.mem_filter, isOrphan_iff]

/-! ### Dealing out a storage -/

/-- The tests that deal out a storage to the views and the orphans. -/
def tests (m : MethodInfo) : List (AnnotationRecord → Bool) :=
  (fun a => !a.isParameters) ::
    (((List.range m.parameterTypes.length).map fun i : Nat => AnnotationRecord.isAt i) ++
      [m.isOrphan])

theorem flatMap_tests (owner : ClassInfo) (m : MethodInfo) :
    (m.tests.flatMap fun p => m.annotations.filter p) = (m.views owner).flatten ++ m.orphans := by
  simp [tests, views, orphans, Element.annotations, List.flatMap_def, Function.comp_def]

/-- What is recorded for a parameter is recorded for one position of the method, or is an orphan. -/
theorem countP_isAt (h : a.isParameters = true) :
    ((List.range m.parameterTypes.length).countP fun i : Nat => a.isAt i)
      = if m.isOrphan a then 0 else 1 := by
  by_cases there : ∃ i : Nat, i < m.parameterTypes.length ∧ a.position = some (i : Int)
  · obtain ⟨i, hi, position⟩ := there
    have kept : m.isOrphan a = false := by
      rw [isOrphan, position, Option.any_some, hasParameter_iff.2 ⟨i, hi, rfl⟩, Bool.not_true,
        Bool.and_false]
    have only : ∀ j ∈ List.range m.parameterTypes.length,
        a.isAt (j : Nat) = true ↔ (j == i) = true := by
      intro j _
      rw [AnnotationRecord.isAt_iff, ← AnnotationRecord.isParameters_iff, position, Option.some_inj,
        Int.ofNat_inj, beq_iff_eq, and_iff_right h]
      exact eq_comm
    rw [kept, List.countP_congr only]
    exact List.count_eq_one_of_mem List.nodup_range (List.mem_range.2 hi)
  · have orphan : m.isOrphan a = true := by
      rw [isOrphan, h, Bool.true_and, Bool.not_eq_true', Option.any_eq_false]
      intro p hp
      refine eq_false_of_ne_true fun hasP => ?_
      obtain ⟨i, hi, rfl⟩ := hasParameter_iff.1 hasP
      exact there ⟨i, hi, hp⟩
    rw [if_pos orphan, List.countP_eq_zero]
    intro i hi ha
    exact there ⟨i, List.mem_range.1 hi, (AnnotationRecord.isAt_iff.1 ha).2⟩

/-- Every annotation passes just one of the tests. -/
theorem countP_tests (m : MethodInfo) (a : AnnotationRecord) :
    (m.tests.countP fun p => p a) = 1 := by
  rw [tests, List.countP_cons, List.countP_append, List.countP_map, List.countP_singleton]
  cases h : a.isParameters with
  | false =>
      have nowhere (i : Int) : a.isAt i = false := by
        rw [AnnotationRecord.isAt, h, Bool.false_and]
      simp [Function.comp_def, isOrphan, h, nowhere]
  | true =>
      have one := countP_isAt (m := m) h
      cases orphan : m.isOrphan a <;> simp_all [Function.comp_def]

/-- **A storage is dealt out** to the views and the orphans. -/
theorem perm_views (owner : ClassInfo) (m : MethodInfo) :
    m.annotations.Perm ((m.views owner).flatten ++ m.orphans) := by
  rw [← flatMap_tests]
  exact perm_flatMap_filter fun a _ => countP_tests m a

/-! ### Order and number -/

/-- A view has what belongs to it in the order of the storage, and leaves nothing of it out. -/
theorem exists_filter_of_mem_views {view : List AnnotationRecord} (h : view ∈ m.views owner) :
    ∃ p : AnnotationRecord → Bool, view = m.annotations.filter p := by
  rcases List.mem_cons.1 h with rfl | h
  · exact ⟨_, rfl⟩
  · obtain ⟨i, -, rfl⟩ := List.mem_map.1 h
    exact ⟨AnnotationRecord.isAt i, rfl⟩

/-- An orphan is in no view, and what is in no view is an orphan. -/
theorem forall_not_mem_views_iff (h : a ∈ m.annotations) :
    (∀ view ∈ m.views owner, a ∉ view) ↔ a ∈ m.orphans := by
  have dealt := (perm_views owner m).mem_iff.1 h
  rw [List.mem_append, List.mem_flatten] at dealt
  constructor
  · intro nowhere
    refine dealt.resolve_left ?_
    rintro ⟨view, hview, ha⟩
    exact nowhere view hview ha
  · intro orphan view hview ha
    obtain ⟨-, target, outside⟩ := mem_orphans_iff.1 orphan
    rcases List.mem_cons.1 hview with rfl | hview
    · exact (mem_method_annotations_iff.1 ha).2 target
    · obtain ⟨i, hi, rfl⟩ := List.mem_map.1 hview
      have position := (mem_parameter_annotations_iff.1 ha).2.2
      have hi := List.mem_range.1 hi
      rcases outside _ position with h | h <;> omega

/-- **The views of a method divide its storage.**  A stored annotation is in the view of the method
unless it is recorded for a parameter; it is in the view of a parameter if it is recorded for one,
at the position of that parameter; and it is in no view if it is recorded for a parameter, at no
position or at one that no parameter has.  A view has the annotations in the order in which they are
stored, and each as often as it is stored.  The views and the orphans together are the storage in
another order, so their sizes add up to its size. -/
theorem views_partition [DecidableEq AnnotationRecord] (owner : ClassInfo) (m : MethodInfo) :
    (∀ a, a ∈ (Element.method owner m).annotations ↔
      a ∈ m.annotations ∧ a.target ≠ some .parameter) ∧
    (∀ i : Fin m.parameterTypes.length, ∃ e, m.parameter owner i.val = .ok e ∧
      (m.views owner)[i.val + 1]? = some e.annotations ∧
      ∀ a, a ∈ e.annotations ↔
        a ∈ m.annotations ∧ a.target = some .parameter ∧ a.position = some (i.val : Int)) ∧
    (∀ a ∈ m.annotations, (∀ view ∈ m.views owner, a ∉ view) ↔
      a.target = some .parameter ∧
        ∀ p, a.position = some p → p < 0 ∨ (m.parameterTypes.length : Int) ≤ p) ∧
    (m.views owner).length = m.parameterTypes.length + 1 ∧
    (∀ view ∈ m.views owner, view.Sublist m.annotations ∧
      ∀ a ∈ view, view.count a = m.annotations.count a) ∧
    (∀ a, a ∈ m.orphans ↔ a ∈ m.annotations ∧ ∀ view ∈ m.views owner, a ∉ view) ∧
    m.annotations.Perm ((m.views owner).flatten ++ m.orphans) ∧
    m.annotations.length = ((m.views owner).map List.length).sum + m.orphans.length := by
  have dealt := perm_views owner m
  refine ⟨fun a => mem_method_annotations_iff, fun i => ?_, fun a ha => ?_, ?_, ?_, fun a => ?_,
    dealt, ?_⟩
  · refine ⟨_, parameter_eq_ok owner m i, ?_, fun a => mem_parameter_annotations_iff⟩
    rw [views, List.getElem?_cons_succ, List.getElem?_map, List.getElem?_range i.isLt]
    rfl
  · rw [forall_not_mem_views_iff ha, mem_orphans_iff, and_iff_right ha]
  · rw [views, List.length_cons, List.length_map, List.length_range]
  · intro view hview
    obtain ⟨p, rfl⟩ := exists_filter_of_mem_views hview
    exact ⟨List.filter_sublist, fun a ha => List.count_filter (List.mem_filter.1 ha).2⟩
  · constructor
    · intro ha
      have stored := (mem_orphans_iff.1 ha).1
      exact ⟨stored, (forall_not_mem_views_iff stored).2 ha⟩
    · rintro ⟨stored, nowhere⟩
      exact (forall_not_mem_views_iff stored).1 nowhere
  · rw [dealt.length_eq, List.length_append, List.length_flatten]

end MethodInfo

end TypeCatalog
