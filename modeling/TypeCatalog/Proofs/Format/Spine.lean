import Mathlib.Logic.Relation
import TypeCatalog.Proofs.Format.Boxed

/-! # Schema formats — spines

An array leads to its component and a type variable to its bound.  The spine of a reference is what
is met on the way.  A reference leads to one other at most, and being a tree it cannot lead back to
itself, so that every spine has an end: a class or a primitive, a type variable without a bound, or
an array without a component, which no reference that has been read holds but which others may.

All references on a spine are known by one name, that of the end.  Whoever asks for the name of an
array without a component is told what is wrong with it, and so is whoever asks for the name of a
reference that comes down to one.  A table asks for the name of what is no array only.

* `Link`, `EndsAt`: one step along a spine, and its end.
* `exists_endsAt`, `EndsAt.unique`: every spine has an end, and no other.
* `canonicalName_of_leads`: one name along a spine.
* `canonicalName_spine`: the name of a reference, and when a table classifies it.
-/

namespace TypeCatalog.TypeRef

open Relation (ReflTransGen)

variable {r s e d : TypeRef}

/-! ### Steps and ends -/

/-- An array leads to its component, and a type variable to its bound. -/
inductive Link : TypeRef → TypeRef → Prop where
  | component {r s : TypeRef} : r.kind = .array → r.component = some s → Link r s
  | bound {r s : TypeRef} : r.kind = .typeVariable → r.bound = some s → Link r s

/-- `e` is on the spine of `r` and leads nowhere. -/
def EndsAt (r e : TypeRef) : Prop := ReflTransGen Link r e ∧ ∀ s, ¬ Link e s

theorem link_rightUnique : Relator.RightUnique Link := by
  rintro r s s' (⟨hk, hs⟩ | ⟨hk, hs⟩) (⟨hk', hs'⟩ | ⟨hk', hs'⟩)
  · exact Option.some.inj (hs.symm.trans hs')
  · cases hk.symm.trans hk'
  · cases hk.symm.trans hk'
  · exact Option.some.inj (hs.symm.trans hs')

/-- Where a reference does not lead on, it is one of three kinds. -/
theorem forall_not_link_iff :
    (∀ s, ¬ Link e s) ↔
      (e.kind = .array ∧ e.component = none) ∨ (e.kind = .typeVariable ∧ e.bound = none) ∨
        SelfNamed e := by
  constructor
  · intro h
    by_cases array : e.kind = .array
    · refine .inl ⟨array, Option.eq_none_iff_forall_ne_some.2 fun s hs => ?_⟩
      exact h s (.component array hs)
    · by_cases hv : e.kind = .typeVariable
      · refine .inr (.inl ⟨hv, Option.eq_none_iff_forall_ne_some.2 fun s hs => ?_⟩)
        exact h s (.bound hv hs)
      · exact .inr (.inr ⟨array, hv⟩)
  · rintro h s (⟨hk, hs⟩ | ⟨hk, hs⟩)
    · rcases h with ⟨-, hc⟩ | ⟨hk', -⟩ | h
      · cases hs.symm.trans hc
      · cases hk.symm.trans hk'
      · exact h.1 hk
    · rcases h with ⟨hk', -⟩ | ⟨-, hb⟩ | h
      · cases hk.symm.trans hk'
      · cases hs.symm.trans hb
      · exact h.2 hk

theorem EndsAt.of_link (h : Link r s) (hs : EndsAt s e) : EndsAt r e := ⟨.head h hs.1, hs.2⟩

/-- **Every spine has an end.** -/
theorem exists_endsAt (r : TypeRef) : ∃ e, EndsAt r e := by
  induction r using canonicalName.induct with
  | case1 name component bound annotations ih =>
      obtain ⟨e, he⟩ := ih
      exact ⟨e, he.of_link (.component rfl rfl)⟩
  | case2 name bound annotations =>
      exact ⟨_, .refl, forall_not_link_iff.2 (.inl ⟨rfl, rfl⟩)⟩
  | case3 name component bound annotations ih =>
      obtain ⟨e, he⟩ := ih
      exact ⟨e, he.of_link (.bound rfl rfl)⟩
  | case4 name component annotations =>
      exact ⟨_, .refl, forall_not_link_iff.2 (.inr (.inl ⟨rfl, rfl⟩))⟩
  | case5 kind name component bound annotations h1 h2 h3 h4 =>
      refine ⟨_, .refl, ?_⟩
      rintro s (⟨hk, hs⟩ | ⟨hk, hs⟩)
      · exact h1 s hk hs
      · exact h3 s hk hs

/-- And it has no other. -/
theorem EndsAt.unique (h : EndsAt r e) (h' : EndsAt r d) : d = e := by
  have last {a b : TypeRef} (hab : ReflTransGen Link a b) (ha : ∀ s, ¬ Link a s) : b = a := by
    rcases hab.cases_head with rfl | ⟨s, hs, -⟩
    · rfl
    · exact absurd hs (ha s)
  rcases ReflTransGen.total_of_right_unique link_rightUnique h.1 h'.1 with hed | hde
  · exact last hed h.2
  · exact (last hde h'.2).symm

/-! ### Names -/

theorem canonicalName_of_component (hk : r.kind = .array) (hc : r.component = some s) :
    r.canonicalName = s.canonicalName := by
  obtain ⟨kind, name, component, bound, annotations⟩ := r
  obtain rfl : kind = .array := hk
  obtain rfl : component = some s := hc
  simp [canonicalName]

theorem canonicalName_of_link (h : Link r s) : r.canonicalName = s.canonicalName := by
  cases h with
  | component hk hs => exact canonicalName_of_component hk hs
  | bound hk hs => rw [canonicalName_of_variable hk, upperBound, hs, Option.getD_some]

/-- **All references on a spine have one name.** -/
theorem canonicalName_of_leads (h : ReflTransGen Link r s) : r.canonicalName = s.canonicalName := by
  induction h with
  | refl => rfl
  | tail _ hs ih => rw [ih, canonicalName_of_link hs]

theorem canonicalName_of_empty (hk : e.kind = .array) (hc : e.component = none) :
    e.canonicalName = .error (.invalid e.name .noComponent) := by
  obtain ⟨kind, name, component, bound, annotations⟩ := e
  obtain rfl : kind = .array := hk
  obtain rfl : component = none := hc
  simp [canonicalName]

theorem canonicalName_of_unbounded (hk : e.kind = .typeVariable) (hb : e.bound = none) :
    e.canonicalName = .ok objectName := by
  rw [canonicalName_of_variable hk, upperBound, hb]
  exact canonicalName_of_selfNamed (selfNamed_ofClass objectName)

/-- The end of a spine tells the name, or that there is none. -/
theorem EndsAt.name_cases (h : EndsAt r e) :
    (e.kind = .array ∧ e.component = none ∧
      r.canonicalName = .error (.invalid e.name .noComponent)) ∨
    (e.kind = .typeVariable ∧ e.bound = none ∧ r.canonicalName = .ok objectName) ∨
    (SelfNamed e ∧ r.canonicalName = .ok e.name) := by
  rw [canonicalName_of_leads h.1]
  refine (forall_not_link_iff.1 h.2).imp ?_ (Or.imp ?_ ?_)
  · rintro ⟨hk, hc⟩
    exact ⟨hk, hc, canonicalName_of_empty hk hc⟩
  · rintro ⟨hk, hb⟩
    exact ⟨hk, hb, canonicalName_of_unbounded hk hb⟩
  · intro self
    exact ⟨self, canonicalName_of_selfNamed self⟩

/-- There is no name just if the end is an array, which then has no component. -/
theorem EndsAt.exists_error_iff (h : EndsAt r e) :
    (∃ fault, r.canonicalName = .error fault) ↔ e.kind = .array ∧ e.component = none := by
  rcases h.name_cases with ⟨hk, hc, hn⟩ | ⟨hk, -, hn⟩ | ⟨self, hn⟩
  · exact iff_of_true ⟨_, hn⟩ ⟨hk, hc⟩
  · simp [hn, hk]
  · simp [hn, self.1]

/-! ### Classification -/

/-- A table fails to classify just the type variables that come down to an array without a
component, and that whatever it lists. -/
theorem EndsAt.exists_classify_error_iff (h : EndsAt r e) (t : FormatTable) :
    (∃ fault, t.classify r = .error fault) ↔
      r.kind = .typeVariable ∧ e.kind = .array ∧ e.component = none := by
  by_cases array : r.kind = .array
  · simp [FormatTable.classify_of_array t array, array]
  · have named : (∃ fault, t.classify r = .error fault) ↔
        ∃ fault, r.canonicalName = .error fault := by
      rw [FormatTable.classify_of_ne_array t array]
      cases r.canonicalName <;> simp [Except.map]
    rw [named, h.exists_error_iff]
    refine ⟨fun he => ⟨?_, he⟩, fun he => he.2⟩
    by_contra hv
    have own : EndsAt r r := ⟨.refl, forall_not_link_iff.2 (.inr (.inr ⟨array, hv⟩))⟩
    exact array (h.unique own ▸ he.1)

/-- **The name of a reference is that of the end of its spine.**  Every spine has one end.  There is
no name just if the end is an array without a component, and then the fault is that array's.  A type
variable without a bound is known by the name of the type above all types, and a class or a
primitive by its own.  So the name is that of the bound, and of the reference in any number of
arrays and bounded type variables.  A table fails to classify just the type variables that have no
name, whatever is listed in it. -/
theorem canonicalName_spine (r : TypeRef) :
    ∃ e, EndsAt r e ∧ (∀ d, EndsAt r d → d = e) ∧
      ((∃ fault, r.canonicalName = .error fault) ↔ e.kind = .array ∧ e.component = none) ∧
      (∀ fault, r.canonicalName = .error fault →
        fault = .invalid e.name .noComponent ∧ fault.report.code = .invalidTypeRef) ∧
      (e.kind = .typeVariable → e.bound = none ∧ r.canonicalName = .ok objectName) ∧
      (e.kind = .classType ∨ e.kind = .primitive → r.canonicalName = .ok e.name) ∧
      r.resolveVariable.canonicalName = r.canonicalName ∧
      (∀ w, ReflTransGen Link w r → w.canonicalName = r.canonicalName) ∧
      ∀ t : FormatTable,
        ((∃ fault, t.classify r = .error fault) ↔
          r.kind = .typeVariable ∧ e.kind = .array ∧ e.component = none) ∧
        ((∃ format, t.classify r = .ok format) ↔
          ¬ (r.kind = .typeVariable ∧ e.kind = .array ∧ e.component = none)) := by
  obtain ⟨e, h⟩ := exists_endsAt r
  refine ⟨e, h, fun d hd => h.unique hd, h.exists_error_iff, fun fault hf => ?_, fun hv => ?_,
    fun hk => ?_, canonicalName_resolveVariable r, fun w hw => canonicalName_of_leads hw,
    fun t => ⟨h.exists_classify_error_iff t, ?_⟩⟩
  · rcases h.name_cases with ⟨-, -, hn⟩ | ⟨-, -, hn⟩ | ⟨-, hn⟩
    · obtain rfl := Except.error.inj (hn.symm.trans hf)
      exact ⟨rfl, rfl⟩
    · cases hn.symm.trans hf
    · cases hn.symm.trans hf
  · rcases h.name_cases with ⟨hk, -, -⟩ | ⟨-, hb, hn⟩ | ⟨self, -⟩
    · cases hk.symm.trans hv
    · exact ⟨hb, hn⟩
    · exact absurd hv self.2
  · rcases h.name_cases with ⟨hk', -, -⟩ | ⟨hk', -, -⟩ | ⟨-, hn⟩
    · simp [hk'] at hk
    · simp [hk'] at hk
    · exact hn
  · rw [← h.exists_classify_error_iff t]
    cases t.classify r <;> simp

end TypeCatalog.TypeRef
