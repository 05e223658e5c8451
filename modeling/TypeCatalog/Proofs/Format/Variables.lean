import TypeCatalog.Format.Table
import TypeCatalog.Proofs.Outcome

/-! # Schema formats — type variables

A type variable is known by its upper bound, and an array by its component.  A table looks at the
kind of a reference first: an array classifies as an array.  Any other reference classifies by its
name, and the name of a type variable whose bound is an array is that of what the array holds.  So
such a variable classifies as what the array holds, and its bound as an array.

* `canonicalName_resolveVariable`: a reference is known by the same name as its bound.
* `classify_resolveVariable_iff`: when a type variable classifies as its bound does.
-/

namespace TypeCatalog

namespace TypeRef

variable {r : TypeRef}

theorem resolveVariable_of_variable (h : r.kind = .typeVariable) :
    r.resolveVariable = r.upperBound := by
  rw [resolveVariable, h]

theorem resolveVariable_of_ne (h : r.kind ≠ .typeVariable) : r.resolveVariable = r := by
  rw [resolveVariable]
  split
  · rename_i hk
    exact absurd hk h
  · rfl

/-- A type variable is known by the name of its bound. -/
theorem canonicalName_of_variable (h : r.kind = .typeVariable) :
    r.canonicalName = r.upperBound.canonicalName := by
  obtain ⟨kind, name, component, bound, annotations⟩ := r
  obtain rfl : kind = .typeVariable := h
  cases bound with
  | none => simp [canonicalName, upperBound, object, ofClass]
  | some bound => simp [canonicalName, upperBound]

/-- **A reference is known by the same name as its bound.** -/
theorem canonicalName_resolveVariable (r : TypeRef) :
    r.resolveVariable.canonicalName = r.canonicalName := by
  by_cases h : r.kind = .typeVariable
  · rw [resolveVariable_of_variable h, canonicalName_of_variable h]
  · rw [resolveVariable_of_ne h]

end TypeRef

namespace FormatTable

variable {r : TypeRef}

theorem classify_of_array (t : FormatTable) (h : r.kind = .array) : t.classify r = .ok .array := by
  rw [classify, h]

/-- A reference that is no array classifies by its name. -/
theorem classify_of_ne_array (t : FormatTable) (h : r.kind ≠ .array) :
    t.classify r = r.canonicalName.map t.ofName := by
  rw [classify]
  split
  · rename_i hk
    exact absurd hk h
  · rfl

/-- A type variable classifies by the name of its bound. -/
theorem classify_of_variable (t : FormatTable) (h : r.kind = .typeVariable) :
    t.classify r = r.upperBound.canonicalName.map t.ofName := by
  rw [classify_of_ne_array t (by simp [h]), TypeRef.canonicalName_of_variable h]

theorem classify_resolveVariable_of_array (t : FormatTable) (h : r.kind = .typeVariable)
    (ha : r.upperBound.kind = .array) : t.classify r.resolveVariable = .ok .array := by
  rw [TypeRef.resolveVariable_of_variable h, classify_of_array t ha]

/-- The built-in table lists no arrays. -/
theorem ofName_default_ne_array (name : String) : ofName default name ≠ .array := by
  have all : ∀ e ∈ default.entries, e.2 ≠ Format.array := by decide +kernel
  rw [ofName]
  cases h : default.get? name with
  | none => decide
  | some f => exact all _ (Entries.mem_of_get? h)

/-- **When a type variable classifies as its bound.**  It does so if the bound is no array.  If the
bound is an array, it does so only if the name that the array comes down to is listed as an array;
otherwise the bound classifies as an array, and the type variable as what that name is listed as, or
not at all if there is no name.  The built-in table lists no arrays. -/
theorem classify_resolveVariable_iff (t : FormatTable) (r : TypeRef) :
    (t.classify r = t.classify r.resolveVariable ↔
      (r.kind = .typeVariable → r.upperBound.kind = .array →
        ∃ name, r.upperBound.canonicalName = .ok name ∧ t.ofName name = .array)) ∧
    (r.kind = .typeVariable → r.upperBound.kind = .array →
      t.classify r.resolveVariable = .ok .array ∧
      t.classify r = r.upperBound.canonicalName.map t.ofName) ∧
    (default.classify r = default.classify r.resolveVariable ↔
      ¬ (r.kind = .typeVariable ∧ r.upperBound.kind = .array)) := by
  -- what is said of the given table is said of the built-in one as well
  have general : ∀ t : FormatTable, t.classify r = t.classify r.resolveVariable ↔
      (r.kind = .typeVariable → r.upperBound.kind = .array →
        ∃ name, r.upperBound.canonicalName = .ok name ∧ t.ofName name = .array) := by
    intro t
    by_cases hv : r.kind = .typeVariable
    · by_cases ha : r.upperBound.kind = .array
      · rw [classify_of_variable t hv, classify_resolveVariable_of_array t hv ha, map_eq_ok_iff]
        exact ⟨fun h _ _ => h, fun h => h hv ha⟩
      · rw [classify_of_variable t hv, TypeRef.resolveVariable_of_variable hv,
          classify_of_ne_array t ha]
        exact iff_of_true rfl fun _ h => absurd h ha
    · rw [TypeRef.resolveVariable_of_ne hv]
      exact iff_of_true rfl fun h => absurd h hv
  refine ⟨general t, fun hv ha => ?_, ?_⟩
  · exact ⟨classify_resolveVariable_of_array t hv ha, classify_of_variable t hv⟩
  · rw [general default]
    constructor
    · rintro h ⟨hv, ha⟩
      obtain ⟨name, -, hn⟩ := h hv ha
      exact ofName_default_ne_array name hn
    · exact fun h hv ha => absurd ⟨hv, ha⟩ h

/-- A type variable need not classify as its bound: one bounded by lists of texts does not. -/
theorem not_classify_resolveVariable : ¬ ∀ (t : FormatTable) (r : TypeRef),
    r.kind = .typeVariable → t.classify r = t.classify r.resolveVariable := by
  intro h
  let r : TypeRef := .typeVariable "T" (some (.arrayOf "builtins.list" (.ofClass "builtins.str")))
  have hv : r.kind = .typeVariable := rfl
  have ha : r.upperBound.kind = .array := rfl
  have hr := h default r hv
  rw [classify_of_variable default hv, classify_resolveVariable_of_array default hv ha,
    map_eq_ok_iff] at hr
  obtain ⟨name, -, hn⟩ := hr
  exact ofName_default_ne_array name hn

end FormatTable

end TypeCatalog
