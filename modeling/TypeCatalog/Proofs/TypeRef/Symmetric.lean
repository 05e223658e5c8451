import TypeCatalog.Proofs.Format.Boxed

/-! # Type references — comparing either way round

Two references that differ in name are compared by two questions, one after the other: is the first
a primitive that the second boxes, and if not, is the second one that the first boxes?  A question
about a primitive of unknown name cannot be answered, and then the comparison has no answer either.

No question is open unless it is about a primitive and a class, and a pair of references cannot be
that both ways round.  So one of the two questions is always answered by no, whatever the names are,
and the outcome is that of the other one (`isBoxedBy_either`).  Which of them comes first makes no
difference, even where there is no answer.

* `isBoxedBy_eq_error_iff`: which questions have no answer.
* `sameType_comm`: a comparison has one outcome both ways round.
* `sameType_outcome`: what this outcome is.
-/

namespace TypeCatalog.TypeRef

variable {a b : TypeRef} {fault : TypeFault}

/-! ### One question -/

/-- A primitive whose name is that of none. -/
def IsUnknown (r : TypeRef) : Prop := r.kind = .primitive ∧ ∀ p : Primitive, p.spelling ≠ r.name

theorem asPrimitive_eq_error_iff (h : a.kind = .primitive) :
    a.asPrimitive = .error fault ↔
      (∀ p : Primitive, p.spelling ≠ a.name) ∧ fault = .unknownPrimitive a.name := by
  rw [asPrimitive, h, ← Primitive.ofSpelling?_eq_none_iff]
  cases Primitive.ofSpelling? a.name with
  | none => simp [eq_comm]
  | some p => simp

/-- A question is answered by no unless it is about a primitive and a class. -/
theorem isBoxedBy_of_kinds (h : ¬ (a.kind = .primitive ∧ b.kind = .classType)) :
    a.isBoxedBy b = .ok false := by
  unfold isBoxedBy
  split
  · exact absurd ⟨‹_›, ‹_›⟩ h
  · rfl

/-- A question has no answer where it is about an unknown primitive and a class. -/
theorem isBoxedBy_eq_error_iff :
    a.isBoxedBy b = .error fault ↔
      a.IsUnknown ∧ b.kind = .classType ∧ fault = .unknownPrimitive a.name := by
  by_cases h : a.kind = .primitive ∧ b.kind = .classType
  · obtain ⟨ha, hb⟩ := h
    rw [isBoxedBy, ha, hb, ← faultOf_eq_some_iff, faultOf_map, faultOf_eq_some_iff,
      asPrimitive_eq_error_iff ha]
    simp [IsUnknown, ha]
  · rw [isBoxedBy_of_kinds h]
    refine iff_of_false nofun ?_
    rintro ⟨ha, hb, -⟩
    exact h ⟨ha.1, hb⟩

/-- Of the two questions about a pair, one is answered by no. -/
theorem isBoxedBy_either (a b : TypeRef) :
    a.isBoxedBy b = .ok false ∨ b.isBoxedBy a = .ok false := by
  by_cases h : a.kind = .primitive ∧ b.kind = .classType
  · refine .inr (isBoxedBy_of_kinds fun hb => ?_)
    rw [h.1] at hb
    cases hb.2
  · exact .inl (isBoxedBy_of_kinds h)

/-! ### Both questions -/

theorem sameType_of_name (h : a.name = b.name) : a.sameType b = .ok true := if_pos h

/-- The outcome is that of the second question where the first is answered by no. -/
theorem sameType_of_not_boxed (hn : a.name ≠ b.name) (h : a.isBoxedBy b = .ok false) :
    a.sameType b = b.isBoxedBy a := by
  rw [sameType, if_neg hn, h]

/-- The outcome is that of the first question where the second is answered by no. -/
theorem sameType_of_not_boxes (hn : a.name ≠ b.name) (h : b.isBoxedBy a = .ok false) :
    a.sameType b = a.isBoxedBy b := by
  rw [sameType, if_neg hn, h]
  rcases a.isBoxedBy b with fault | _ | _ <;> rfl

/-- **A comparison** has one outcome both ways round. -/
theorem sameType_comm (a b : TypeRef) : a.sameType b = b.sameType a := by
  by_cases hn : a.name = b.name
  · rw [sameType_of_name hn, sameType_of_name hn.symm]
  · rcases isBoxedBy_either a b with h | h
    · rw [sameType_of_not_boxed hn h, sameType_of_not_boxes (Ne.symm hn) h]
    · rw [sameType_of_not_boxes hn h, sameType_of_not_boxed (Ne.symm hn) h]

/-- A comparison has no answer where the names differ and one of the questions has none. -/
theorem sameType_eq_error_iff :
    a.sameType b = .error fault ↔
      a.name ≠ b.name ∧ (a.isBoxedBy b = .error fault ∨ b.isBoxedBy a = .error fault) := by
  by_cases hn : a.name = b.name
  · rw [sameType_of_name hn]
    exact iff_of_false nofun fun h => h.1 hn
  · rcases isBoxedBy_either a b with h | h
    · rw [sameType_of_not_boxed hn h, h]
      simp [hn]
    · rw [sameType_of_not_boxes hn h, h]
      simp [hn]

/-- **The outcome of a comparison.**  It is the same both ways round.  There is none, for the name
of a primitive that is not known, just if the names differ, one of the two is such a primitive, and
the other is a class; else it is yes if the names are equal or one of the two boxes the other.  So
every reference is the same type as itself. -/
theorem sameType_outcome (a b : TypeRef) :
    a.sameType b = b.sameType a ∧
    (∀ fault, a.sameType b = .error fault ↔ a.name ≠ b.name ∧
      ((a.IsUnknown ∧ b.kind = .classType ∧ fault = .unknownPrimitive a.name) ∨
        (b.IsUnknown ∧ a.kind = .classType ∧ fault = .unknownPrimitive b.name))) ∧
    (a.sameType b = .ok true ↔ a.name = b.name ∨ Boxed a b ∨ Boxed b a) ∧
    a.sameType a = .ok true := by
  refine ⟨sameType_comm a b, fun fault => ?_, sameType_eq_ok_true_iff, sameType_of_name rfl⟩
  rw [sameType_eq_error_iff, isBoxedBy_eq_error_iff, isBoxedBy_eq_error_iff]

end TypeCatalog.TypeRef
