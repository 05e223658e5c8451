import TypeCatalog.Proofs.Checked
import TypeCatalog.Proofs.Endless
import TypeCatalog.Proofs.Outcome
import TypeCatalog.Proofs.Value.Parts
import TypeCatalog.Snapshot.Recorded

/-! # Snapshots — the way of recording

Recording a value goes on with the items of a list and with the values of a mapping that is an
annotation.  A mapping with just the two fields of an annotation has its shape, and is one if the
name is a text and the values are a mapping from texts.

* `IsShaped.check_eq_valid_iff`: what has the shape passes the check as the annotation that it is.
* `Inner`: what recording a value goes on with.
* `value_cases`: a list, an annotation, what has the shape of one only, or what stays as it is.
* `mem_family_of_inner`: everything on the way is one of finitely many values.
-/

namespace TypeCatalog

open Value (field?)

variable {v x y : Value} {xs : List Value} {es : List (Value × Value)} {name : String}
  {vs : Entries String Value}

/-! ### The shape of an annotation -/

/-- The two fields of an annotation, in either order, and nothing else. -/
inductive AnnotationShape : List (Value × Value) → Value → Value → Prop where
  | nameFirst (name values : Value) :
      AnnotationShape [(.text "name", name), (.text "values", values)] name values
  | valuesFirst (name values : Value) :
      AnnotationShape [(.text "values", values), (.text "name", name)] name values

theorem isNestedShape_iff :
    isNestedShape es = true ↔ ∃ name values, AnnotationShape es name values := by
  constructor
  · intro h
    simp only [isNestedShape, Bool.and_eq_true, beq_iff_eq] at h
    obtain ⟨⟨hl, hn⟩, hv⟩ := h
    obtain ⟨⟨k, v⟩, ⟨l, w⟩, rfl⟩ := List.length_eq_two.1 hl
    obtain ⟨name, hname⟩ := Option.isSome_iff_exists.1 hn
    obtain ⟨values, hvalues⟩ := Option.isSome_iff_exists.1 hv
    have hname := Value.mem_of_field? hname
    have hvalues := Value.mem_of_field? hvalues
    simp only [List.mem_cons, Prod.mk.injEq, List.not_mem_nil, or_false] at hname hvalues
    rcases hname with ⟨rfl, rfl⟩ | ⟨rfl, rfl⟩
    · rcases hvalues with ⟨h, -⟩ | ⟨rfl, rfl⟩
      · simp at h
      · exact ⟨_, _, .nameFirst name values⟩
    · rcases hvalues with ⟨rfl, rfl⟩ | ⟨h, -⟩
      · exact ⟨_, _, .valuesFirst name values⟩
      · simp at h
  · rintro ⟨name, values, h⟩
    cases h <;> simp [isNestedShape, Value.field?_cons_of_ne]

namespace AnnotationShape

variable {nameAt valuesAt nameAt' valuesAt' : Value}

theorem field?_name (h : AnnotationShape es nameAt valuesAt) : field? "name" es = some nameAt := by
  cases h <;> simp [Value.field?_cons_of_ne]

theorem field?_values (h : AnnotationShape es nameAt valuesAt) :
    field? "values" es = some valuesAt := by
  cases h <;> simp [Value.field?_cons_of_ne]

theorem perm (h : AnnotationShape es nameAt valuesAt) :
    es.Perm [(.text "name", nameAt), (.text "values", valuesAt)] := by
  cases h with
  | nameFirst => exact .refl _
  | valuesFirst => exact .swap _ _ _

theorem values_mem (h : AnnotationShape es nameAt valuesAt) : (.text "values", valuesAt) ∈ es :=
  h.perm.mem_iff.2 (by simp)

theorem onlyFields (h : AnnotationShape es nameAt valuesAt) :
    Checked.onlyFields ["name", "values"] es = .valid () :=
  Checked.onlyFields_eq_valid_iff.2 (by cases h <;> simp)

end AnnotationShape

/-! ### Annotations -/

/-- The value is a mapping from texts, which has these values by name. -/
def HasValues (v : Value) (values : Entries String Value) : Prop :=
  ∃ es fields, v.entries? = some es ∧
    List.Forall₂ (fun e p => e.1.asText? = some p.1 ∧ e.2 = p.2) es fields ∧
    Checked.byName es fields = values

theorem mapping_eq_valid_iff : Checked.mapping .valid v = .valid vs ↔ HasValues v vs := by
  simp only [Checked.mapping_eq_valid_iff, Checked.entries_eq_valid_iff, Checked.valid.injEq,
    HasValues]

/-- A mapping with the shape of an annotation. -/
def IsShaped (v : Value) : Prop :=
  ∃ es nameAt valuesAt, v.entries? = some es ∧ AnnotationShape es nameAt valuesAt

/-- A mapping that is an annotation: the name is a text, and the values are a mapping from texts. -/
inductive IsAnnotation (v : Value) (name : String) (values : Entries String Value) : Prop where
  | mk {es : List (Value × Value)} {nameAt valuesAt : Value} (entries : v.entries? = some es)
      (shape : AnnotationShape es nameAt valuesAt) (named : nameAt.asText? = some name)
      (mapping : HasValues valuesAt values)

theorem IsAnnotation.isShaped (h : IsAnnotation v name vs) : IsShaped v := by
  obtain ⟨entries, shape, -, -⟩ := h
  exact ⟨_, _, _, entries, shape⟩

/-- The entry of an annotation in a document: a mapping with a name and, if it has any, values. -/
theorem AnnotationEntry.of_check {e : AnnotationEntry} (h : check v = .valid e) :
    ∃ es nameAt, v.entries? = some es ∧ field? "name" es = some nameAt ∧
      nameAt.asText? = some e.name ∧
      (field? "values" es = none ∧ e.values = [] ∨
        ∃ valuesAt, field? "values" es = some valuesAt ∧ HasValues valuesAt e.values) := by
  simp only [check, Checked.andThen_eq_valid_iff, Checked.record_eq_valid_iff,
    Checked.map_eq_valid_iff, Checked.and_eq_valid_iff, Checked.field_eq_valid_iff,
    Checked.fieldOr_eq_valid_iff, Checked.text_eq_valid_iff, mapping_eq_valid_iff] at h
  obtain ⟨es, hes, ⟨s, vs, _⟩, ⟨⟨nameAt, hn, hs⟩, hv, -⟩, rfl⟩ := h
  exact ⟨es, nameAt, hes, hn, hs, hv.imp_left fun ⟨hv, h⟩ => ⟨hv, h.symm⟩⟩

/-- What has the shape of an annotation passes the check as the annotation that it is. -/
theorem IsShaped.check_eq_valid_iff {e : AnnotationEntry} (h : IsShaped v) :
    AnnotationEntry.check v = .valid e ↔ IsAnnotation v e.name e.values := by
  obtain ⟨es, nameAt, valuesAt, hes, shape⟩ := h
  constructor
  · intro hc
    obtain ⟨es', nameAt', hes', hn, hs, hv⟩ := AnnotationEntry.of_check hc
    obtain rfl := Option.some.inj (hes.symm.trans hes')
    obtain rfl := Option.some.inj (shape.field?_name.symm.trans hn)
    rcases hv with ⟨hv, -⟩ | ⟨valuesAt', hv, values⟩
    · cases shape.field?_values.symm.trans hv
    · obtain rfl := Option.some.inj (shape.field?_values.symm.trans hv)
      exact .mk hes shape hs values
  · rintro ⟨hes, shape, named, mapping⟩
    simp only [AnnotationEntry.check, Checked.andThen_eq_valid_iff, Checked.record_eq_valid_iff,
      Checked.map_eq_valid_iff, Checked.and_eq_valid_iff, Checked.field_eq_valid_iff,
      Checked.fieldOr_eq_valid_iff, Checked.text_eq_valid_iff, mapping_eq_valid_iff]
    exact ⟨_, hes, (e.name, e.values, ()), ⟨⟨_, shape.field?_name, named⟩,
      .inr ⟨_, shape.field?_values, mapping⟩, shape.onlyFields⟩, rfl⟩

theorem IsAnnotation.unique {name' : String} {vs' : Entries String Value}
    (h : IsAnnotation v name vs) (h' : IsAnnotation v name' vs') : name = name' ∧ vs = vs' := by
  have c := (h.isShaped.check_eq_valid_iff (e := ⟨name, vs⟩)).2 h
  have c' := (h.isShaped.check_eq_valid_iff (e := ⟨name', vs'⟩)).2 h'
  obtain ⟨rfl, rfl⟩ := AnnotationEntry.mk.inj (Checked.valid.inj (c.symm.trans c'))
  exact ⟨rfl, rfl⟩

/-! ### The way of recording -/

/-- Recording goes on with the items of a list and with the values of an annotation. -/
inductive Inner (v : Value) : Value → Prop where
  | item {xs : List Value} {x : Value} (list : v.opened = .list xs) (hx : x ∈ xs) : Inner v x
  | value {name : String} {vs : Entries String Value} {p : String × Value}
      (annotated : IsAnnotation v name vs) (hp : p ∈ vs) : Inner v p.2

/-- The value has the shape of an annotation without being one. -/
structure Misshapen (v : Value) : Prop where
  shaped : IsShaped v
  none : ∀ name vs, ¬ IsAnnotation v name vs

/-- What recording leaves as it is: neither a list nor a mapping with the shape of an annotation. -/
structure Stays (v : Value) : Prop where
  noList : ∀ xs, v.opened ≠ .list xs
  unshaped : ¬ IsShaped v

theorem not_isShaped_of_list (h : v.opened = .list xs) : ¬ IsShaped v := by
  rintro ⟨es, _, _, hes, _⟩
  cases h.symm.trans (Value.entries?_eq_some_iff.1 hes)

theorem inner_list_iff (h : v.opened = .list xs) : Inner v x ↔ x ∈ xs := by
  constructor
  · rintro (⟨h', hx⟩ | ⟨annotated, -⟩)
    · obtain rfl := Value.list.inj (h.symm.trans h')
      exact hx
    · exact absurd annotated.isShaped (not_isShaped_of_list h)
  · exact .item h

theorem inner_annotation_iff (h : IsAnnotation v name vs) : Inner v x ↔ ∃ p ∈ vs, p.2 = x := by
  constructor
  · rintro (⟨list, -⟩ | ⟨h', hp⟩)
    · exact absurd h.isShaped (not_isShaped_of_list list)
    · obtain ⟨-, rfl⟩ := h.unique h'
      exact ⟨_, hp, rfl⟩
  · rintro ⟨p, hp, rfl⟩
    exact .value h hp

theorem Stays.not_inner (h : Stays v) : ¬ Inner v x := by
  rintro (⟨list, -⟩ | ⟨annotated, -⟩)
  · exact h.noList _ list
  · exact h.unshaped annotated.isShaped

theorem Misshapen.not_inner (h : Misshapen v) : ¬ Inner v x := by
  rintro (⟨list, -⟩ | ⟨annotated, -⟩)
  · exact not_isShaped_of_list list h.shaped
  · exact h.none _ _ annotated

/-- The four kinds of values. -/
theorem value_cases (v : Value) : (∃ xs, v.opened = .list xs) ∨
    (∃ name vs, IsAnnotation v name vs) ∨ Misshapen v ∨ Stays v := by
  by_cases list : ∃ xs, v.opened = .list xs
  · exact .inl list
  by_cases shaped : IsShaped v
  · by_cases annotated : ∃ name vs, IsAnnotation v name vs
    · exact .inr (.inl annotated)
    · exact .inr (.inr (.inl ⟨shaped, fun name vs h => annotated ⟨name, vs, h⟩⟩))
  · exact .inr (.inr (.inr ⟨fun xs h => list ⟨xs, h⟩, shaped⟩))

/-- The items of a list are its parts; the values of an annotation are those of one of its parts. -/
theorem parts_of_inner (h : Inner v x) : x ∈ v.parts ∨ ∃ y ∈ v.parts, x ∈ y.parts := by
  cases h with
  | item list hx =>
      rw [Value.parts, list]
      exact .inl hx
  | value annotated hp =>
      obtain ⟨entries, shape, -, ws, fields, mapping, read, rfl⟩ := annotated
      obtain ⟨e, he, -, same⟩ := exists_of_forall₂ read.flip (Checked.mem_of_mem_byName hp)
      rw [← same]
      exact .inr ⟨_, Value.mem_parts_of_entries? entries shape.values_mem,
        Value.mem_parts_of_entries? mapping he⟩

/-- What is met in recording a value is in its family. -/
theorem mem_family_of_inner (hx : x ∈ v.family) (h : Inner x y) : y ∈ v.family := by
  rcases parts_of_inner h with hy | ⟨z, hz, hy⟩
  · exact Value.mem_family_of_parts v x hx y hy
  · exact Value.mem_family_of_parts v z (Value.mem_family_of_parts v x hx z hz) y hy

/-- Recording a finite value comes to an end. -/
theorem not_endless_of_isFinite (hv : v.IsFinite) : ¬ Endless Inner v := by
  induction hn : sizeOf v using Nat.strong_induction_on generalizing v with
  | _ n ih =>
      rw [endless_iff_exists]
      rintro ⟨x, hx, endless⟩
      have smaller : x.IsFinite ∧ sizeOf x < sizeOf v := by
        rcases parts_of_inner hx with hx | ⟨y, hy, hx⟩
        · exact hv.of_parts hx
        · obtain ⟨finite, less⟩ := hv.of_parts hy
          exact (finite.of_parts hx).imp_right (·.trans less)
      exact ih _ (hn ▸ smaller.2) smaller.1 rfl endless

end TypeCatalog
