import TypeCatalog.Proofs.Format.Variables
import TypeCatalog.TypeRef.Boxed

/-! # Schema formats — equal types

Two references are equal types when they have one name, or when one is a primitive and the other a
class that boxes it.  Nothing else of a reference is looked at: neither what an array holds, nor the
bound of a type variable, nor whether the two are of one kind.  So two type variables of one name
are equal types whatever their bounds, and an array is equal to a class that has the name of its
container.

The built-in table lists each primitive together with the classes that box it.  References that are
classes or primitives are known by their names, so for them equal types have equal formats.  An
array is an array whatever its name.  A type variable is known by the class or primitive that its
bounds come down to (`Bottom`), which its name says nothing about.  Of a type variable whose bounds
come down to an array nothing is said here: a table does not classify it as its bound.

* `ofName_boxes`: a class that boxes a primitive has the format of the primitive.
* `sameType_eq_ok_true_iff`: when two references are equal types.
* `classify_of_bottom`: a reference classifies as what its bounds come down to.
* `classify_of_sameType`: which equal types classify alike.
-/

namespace TypeCatalog

/-! ### Equal types -/

namespace TypeRef

variable {a b r : TypeRef}

/-- A primitive and a class of its boxes. -/
def Boxed (a b : TypeRef) : Prop :=
  a.kind = .primitive ∧ b.kind = .classType ∧
    ∃ p : Primitive, p.spelling = a.name ∧ b.name ∈ p.boxes

theorem asPrimitive_eq_ok_iff (h : a.kind = .primitive) {p : Primitive} :
    a.asPrimitive = .ok p ↔ p.spelling = a.name := by
  rw [asPrimitive, h]
  constructor
  · intro hp
    cases hs : Primitive.ofSpelling? a.name with
    | none => simp [hs] at hp
    | some q =>
        obtain rfl : q = p := by simpa [hs] using hp
        exact Primitive.spelling_of_ofSpelling? hs
  · rintro hp
    rw [← hp, Primitive.ofSpelling?_spelling]

theorem isBoxedBy_eq_ok_true_iff : a.isBoxedBy b = .ok true ↔ Boxed a b := by
  unfold isBoxedBy
  split
  · rename_i ha hb
    rw [map_eq_ok_iff]
    simp only [asPrimitive_eq_ok_iff ha, boxes, List.contains_iff_mem]
    exact ⟨fun h => ⟨ha, hb, h⟩, fun h => h.2.2⟩
  · rename_i hne
    exact iff_of_false (by simp) fun h => hne h.1 h.2.1

/-- A class boxes a primitive and is not boxed itself. -/
theorem isBoxedBy_of_boxed_symm (h : Boxed b a) : a.isBoxedBy b = .ok false := by
  unfold isBoxedBy
  rw [h.2.1]

/-- Equal types have one name, or one of them is a primitive and the other boxes it. -/
theorem sameType_eq_ok_true_iff :
    a.sameType b = .ok true ↔ a.name = b.name ∨ Boxed a b ∨ Boxed b a := by
  unfold sameType
  split
  · exact iff_of_true rfl (.inl ‹_›)
  · rename_i hne
    constructor
    · intro h
      split at h
      · cases h
      · exact .inr (.inl (isBoxedBy_eq_ok_true_iff.mp ‹_›))
      · exact .inr (.inr (isBoxedBy_eq_ok_true_iff.mp h))
    · rintro (h | h | h)
      · exact absurd h hne
      · rw [isBoxedBy_eq_ok_true_iff.mpr h]
      · rw [isBoxedBy_of_boxed_symm h]
        exact isBoxedBy_eq_ok_true_iff.mpr h

/-! ### What a reference comes down to -/

/-- A class or a primitive, which is known by its own name. -/
def SelfNamed (r : TypeRef) : Prop := r.kind ≠ .array ∧ r.kind ≠ .typeVariable

theorem selfNamed_ofClass (name : String) : SelfNamed (ofClass name) :=
  ⟨by simp [ofClass], by simp [ofClass]⟩

/-- `Bottom r p`: through bounds of type variables alone, to any depth, `r` comes down to the class
or primitive `p`. -/
inductive Bottom : TypeRef → TypeRef → Prop where
  | own {r : TypeRef} : SelfNamed r → Bottom r r
  | bound {r p : TypeRef} : r.kind = .typeVariable → Bottom r.upperBound p → Bottom r p

theorem Bottom.selfNamed {p : TypeRef} (h : Bottom r p) : SelfNamed p := by
  induction h with
  | own h => exact h
  | bound _ _ ih => exact ih

theorem Bottom.kind_ne_array {p : TypeRef} (h : Bottom r p) : r.kind ≠ .array := by
  cases h with
  | own h => exact h.1
  | bound h _ => rw [h]; exact nofun

theorem canonicalName_of_selfNamed (h : SelfNamed r) : r.canonicalName = .ok r.name := by
  obtain ⟨kind, name, component, bound, annotations⟩ := r
  cases kind with
  | primitive => simp [canonicalName]
  | classType => simp [canonicalName]
  | array => exact absurd rfl h.1
  | typeVariable => exact absurd rfl h.2

theorem Bottom.canonicalName {p : TypeRef} (h : Bottom r p) : r.canonicalName = .ok p.name := by
  induction h with
  | own h => exact canonicalName_of_selfNamed h
  | bound hk _ ih => rw [canonicalName_of_variable hk, ih]

end TypeRef

namespace FormatTable

open TypeRef

variable {a b r p q : TypeRef}

/-! ### The built-in table -/

/-- **The built-in table gives a class that boxes a primitive the format of the primitive.** -/
theorem ofName_boxes (p : Primitive) :
    ∀ name ∈ p.boxes, ofName default name = ofName default p.spelling := by
  cases p <;> decide +kernel

theorem ofName_of_boxed (h : Boxed a b) : ofName default a.name = ofName default b.name := by
  obtain ⟨-, -, p, hp, hb⟩ := h
  rw [← hp, ofName_boxes p _ hb]

theorem ofName_of_sameType (h : a.sameType b = .ok true) :
    ofName default a.name = ofName default b.name := by
  obtain hn | hab | hba := sameType_eq_ok_true_iff.mp h
  · rw [hn]
  · exact ofName_of_boxed hab
  · exact (ofName_of_boxed hba).symm

theorem classify_of_selfNamed (t : FormatTable) (h : SelfNamed r) :
    t.classify r = .ok (t.ofName r.name) := by
  rw [classify_of_ne_array t h.1, canonicalName_of_selfNamed h]
  rfl

/-- A reference classifies as the class or primitive that its bounds come down to. -/
theorem classify_of_bottom (t : FormatTable) (h : Bottom r p) : t.classify r = t.classify p := by
  rw [classify_of_ne_array t h.kind_ne_array, classify_of_selfNamed t h.selfNamed, h.canonicalName]
  rfl

theorem classify_ne_of_array (ha : a.kind = .array) (hb : b.kind ≠ .array) :
    classify default a ≠ classify default b := by
  rw [classify_of_array default ha, classify_of_ne_array default hb]
  intro h
  obtain ⟨name, -, hn⟩ := map_eq_ok_iff.mp h.symm
  exact ofName_default_ne_array name hn

theorem classify_of_sameType_of_selfNamed (ha : SelfNamed a) (hb : SelfNamed b)
    (h : a.sameType b = .ok true) : classify default a = classify default b := by
  rw [classify_of_selfNamed default ha, classify_of_selfNamed default hb, ofName_of_sameType h]

/-- **Which equal types classify alike.**  Let `a` and `b` be equal types.  If neither is a type
variable, the built-in table classifies them alike just if both are arrays or neither is, and so
it does for classes, for primitives, and for a primitive and a class that boxes it.  Two arrays
classify alike whatever they hold.  An array does not classify as a reference does whose bounds, if
it has any, come down to a class or a primitive.  Two references of that kind classify as what they
come down to; so they classify alike just if what they come down to does, as equal types do. -/
theorem classify_of_sameType (h : a.sameType b = .ok true) :
    (a.kind ≠ .typeVariable → b.kind ≠ .typeVariable →
      (classify default a = classify default b ↔ (a.kind = .array ↔ b.kind = .array))) ∧
    (a.kind = .array → b.kind = .array → classify default a = classify default b) ∧
    (∀ q, a.kind = .array → Bottom b q → classify default a ≠ classify default b) ∧
    (∀ p, Bottom a p → b.kind = .array → classify default a ≠ classify default b) ∧
    ∀ p q, Bottom a p → Bottom b q →
      classify default a = classify default p ∧ classify default b = classify default q ∧
      (classify default a = classify default b ↔ classify default p = classify default q) ∧
      (p.sameType q = .ok true → classify default a = classify default b) := by
  have arrays : a.kind = .array → b.kind = .array → classify default a = classify default b := by
    intro ha hb
    rw [classify_of_array default ha, classify_of_array default hb]
  refine ⟨fun ha hb => ?_, arrays, fun q ha hq => ?_, fun p hp hb => ?_, fun p q hp hq => ?_⟩
  · by_cases hka : a.kind = .array <;> by_cases hkb : b.kind = .array
    · exact iff_of_true (arrays hka hkb) (iff_of_true hka hkb)
    · exact iff_of_false (classify_ne_of_array hka hkb) fun hk => hkb (hk.mp hka)
    · exact iff_of_false (classify_ne_of_array hkb hka).symm fun hk => hka (hk.mpr hkb)
    · exact iff_of_true (classify_of_sameType_of_selfNamed ⟨hka, ha⟩ ⟨hkb, hb⟩ h)
        (iff_of_false hka hkb)
  · exact classify_ne_of_array ha hq.kind_ne_array
  · exact (classify_ne_of_array hb hp.kind_ne_array).symm
  · have ap := classify_of_bottom default hp
    have bq := classify_of_bottom default hq
    rw [ap, bq]
    exact ⟨rfl, rfl, Iff.rfl, classify_of_sameType_of_selfNamed hp.selfNamed hq.selfNamed⟩

/-- A primitive and a class that boxes it, which are no type variables and no arrays. -/
theorem classify_of_sameType_int64 :
    (TypeRef.ofPrimitive .long).sameType (.ofClass "ctypes.c_int64") = .ok true ∧
    classify default (.ofPrimitive .long) = classify default (.ofClass "ctypes.c_int64") := by
  have same : (TypeRef.ofPrimitive .long).sameType (.ofClass "ctypes.c_int64") = .ok true :=
    sameType_eq_ok_true_iff.mpr (.inr (.inl ⟨rfl, rfl, .long, rfl, by decide⟩))
  obtain ⟨alike, -⟩ := classify_of_sameType same
  exact ⟨same, (alike (by decide) (by decide)).mpr (iff_of_false (by decide) (by decide))⟩

/-- Equal types need not classify alike: two type variables of one name, of which one is bounded by
whole numbers and the other by texts; and lists of texts and the class of lists. -/
theorem not_classify_of_sameType :
    (¬ ∀ a b : TypeRef, a.kind = .typeVariable → b.kind = .typeVariable →
      a.sameType b = .ok true → classify default a = classify default b) ∧
    ¬ ∀ a b : TypeRef, a.kind = .array → b.kind = .classType →
      a.sameType b = .ok true → classify default a = classify default b := by
  constructor
  · intro h
    let bounded (name : String) : TypeRef := .typeVariable "T" (some (.ofClass name))
    have classified (name : String) :
        classify default (bounded name) = .ok (ofName default name) := by
      have hk : (bounded name).kind = .typeVariable := rfl
      have comesDown : Bottom (bounded name) (.ofClass name) :=
        .bound hk (.own (selfNamed_ofClass name))
      rw [classify_of_bottom default comesDown,
        classify_of_selfNamed default comesDown.selfNamed]
      rfl
    have alike := h (bounded "builtins.int") (bounded "builtins.str") rfl rfl
      (sameType_eq_ok_true_iff.mpr (.inl rfl))
    rw [classified, classified, Except.ok.injEq] at alike
    exact absurd alike (by decide +kernel)
  · intro h
    let lists : TypeRef := .arrayOf "builtins.list" (.ofClass "builtins.str")
    exact classify_ne_of_array (a := lists) (b := .ofClass "builtins.list") rfl (by decide)
      (h _ _ rfl rfl (sameType_eq_ok_true_iff.mpr (.inl rfl)))

end FormatTable

end TypeCatalog
