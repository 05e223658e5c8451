import TypeCatalog.Proofs.Value.Within
import TypeCatalog.Value.Parts

/-! # Values — what can be met on the way into a value

* `mem_family_of_parts`: the parts of what is in a value are in it.
* `mem_parts_of_entries?`, `mem_parts_of_items?`: the values of a mapping and the items of a
  sequence are parts.
* `within_of_parts`: the parts of a value are in it.
* `IsFinite`: no knot is in a value, so that its parts are smaller than it.
-/

namespace TypeCatalog

namespace Layer

variable {l : Layer Value} {x : Value}

/-- The parts of a layer as a value: its parts, or pairs of them. -/
theorem mem_parts_toValue (h : x ∈ l.toValue.parts) :
    x ∈ l.parts ∨ ∃ ps, l = .pairs ps ∧ ∃ p ∈ ps, x = .tuple [p.1, p.2] := by
  rw [Value.parts, Cells.opened_toValue] at h
  cases l with
  | scalar s => cases s <;> cases h
  | set ss => cases h
  | list xs => exact .inl h
  | pairs ps =>
      obtain ⟨p, hp, rfl⟩ := List.mem_map.1 h
      exact .inr ⟨ps, rfl, p, hp, rfl⟩
  | dict es =>
      change x ∈ (es.map fun e => (e.1.toValue, e.2)).map Prod.snd at h
      rw [List.map_map] at h
      exact .inl h

end Layer

namespace Cells

variable {cells : Cells}

theorem layer_of_size_le {i : Nat} (h : cells.size ≤ i) : cells.layer i = .scalar .null := by
  rw [layer, Array.getD_eq_getD_getElem?, Array.getElem?_eq_none h]
  rfl

/-- Past the end of a table there is nothing. -/
theorem value_of_size_le {i : Nat} (h : cells.size ≤ i) : cells.value i = .null := by
  have ends : cells.ends cells.depth i = true := ends_succ.2 (by
    rw [layer_of_size_le h]
    exact List.forall_mem_nil _)
  rw [value_of_ends ends, layer_of_size_le h]
  rfl

/-- What is at a place is among the values of the table, or is nothing. -/
theorem value_mem (cells : Cells) (i : Nat) : cells.value i ∈ Value.null :: cells.family := by
  by_cases h : i < cells.size
  · exact List.mem_cons_of_mem _
      (List.mem_flatMap.2 ⟨i, List.mem_range.2 h, List.mem_cons_self⟩)
  · rw [value_of_size_le (Nat.le_of_not_lt h)]
    exact List.mem_cons_self

/-- The parts of what is at a place are among the values of the table. -/
theorem mem_family_of_value {i : Nat} {x : Value} (h : x ∈ (cells.value i).parts) :
    x ∈ Value.null :: cells.family := by
  have opened : (cells.value i).parts = ((cells.layer i).map cells.value).toValue.parts := by
    rw [Value.parts, opened_value, Value.parts, opened_toValue]
  rw [opened] at h
  rcases Layer.mem_parts_toValue h with hx | ⟨ps, hl, p, hp, rfl⟩
  · rw [Value.parts_map] at hx
    obtain ⟨j, -, rfl⟩ := List.mem_map.1 hx
    exact value_mem cells j
  · cases hi : cells.layer i with
    | pairs qs =>
        rw [hi] at hl
        obtain rfl := Layer.pairs.inj hl
        obtain ⟨q, hq, rfl⟩ := List.mem_map.1 hp
        -- a place that has pairs is none past the end
        have inside : i < cells.size := Nat.lt_of_not_le fun outside => by
          rw [layer_of_size_le outside] at hi
          cases hi
        refine List.mem_cons_of_mem _ (List.mem_flatMap.2 ⟨i, List.mem_range.2 inside, ?_⟩)
        rw [hi]
        exact List.mem_cons_of_mem _ (List.mem_map.2 ⟨q, hq, rfl⟩)
    | _ =>
        rw [hi] at hl
        cases hl

/-- The parts of the values of a table are among them. -/
theorem mem_family_of_parts {x y : Value} (hx : x ∈ Value.null :: cells.family)
    (hy : y ∈ x.parts) : y ∈ Value.null :: cells.family := by
  rcases List.mem_cons.1 hx with rfl | hx
  · cases hy
  · obtain ⟨i, -, hx⟩ := List.mem_flatMap.1 hx
    rcases List.mem_cons.1 hx with rfl | hx
    · exact mem_family_of_value hy
    · split at hx
      · obtain ⟨p, -, rfl⟩ := List.mem_map.1 hx
        rcases List.mem_cons.1 hy with rfl | hy
        · exact value_mem cells p.1
        · rw [List.mem_singleton.1 hy]
          exact value_mem cells p.2
      · cases hx

end Cells

namespace Value

variable {v w x y : Value}

theorem mem_family_self (v : Value) : v ∈ v.family := by
  cases v <;> simp [family]

-- Along the constructors of values.
mutual

/-- **The parts of what is in a value** are in it. -/
theorem mem_family_of_parts : ∀ v : Value, ∀ x ∈ v.family, ∀ y ∈ x.parts, y ∈ v.family
  | .list xs | .tuple xs => by
      rw [family]
      refine List.forall_mem_cons.2 ⟨fun y hy => ?_, fun x hx y hy => ?_⟩
      · exact List.mem_cons_of_mem _ (mem_familyOfItems xs y hy)
      · exact List.mem_cons_of_mem _ (mem_familyOfItems_of_parts xs x hx y hy)
  | .dict es => by
      rw [family]
      refine List.forall_mem_cons.2 ⟨fun y hy => ?_, fun x hx y hy => ?_⟩
      · exact List.mem_cons_of_mem _ (mem_familyOfEntries es y hy)
      · exact List.mem_cons_of_mem _ (mem_familyOfEntries_of_parts es x hx y hy)
  | .nested n vs k p => by
      rw [family]
      refine List.forall_mem_cons.2 ⟨fun y hy => ?_, fun x hx y hy => ?_⟩
      · exact List.mem_cons_of_mem _ (mem_familyOfNamed vs y hy)
      · exact List.mem_cons_of_mem _ (mem_familyOfNamed_of_parts vs x hx y hy)
  | .knot k => by
      rw [family]
      refine List.forall_mem_cons.2 ⟨fun y hy => ?_, fun x hx y hy => ?_⟩
      · rw [← Cells.value_root k] at hy
        exact List.mem_cons_of_mem _ (Cells.mem_family_of_value hy)
      · exact List.mem_cons_of_mem _ (Cells.mem_family_of_parts hx hy)
  | .null | .bool _ | .int _ | .float _ | .notNumber | .text _ | .bytes _ | .date _ | .moment _
  | .set _ => by
      exact List.forall_mem_singleton.2 (List.forall_mem_nil _)

theorem mem_familyOfItems : ∀ xs : List Value, ∀ y ∈ xs, y ∈ familyOfItems xs
  | [] => List.forall_mem_nil _
  | x :: xs => by
      rw [familyOfItems]
      exact List.forall_mem_cons.2 ⟨List.mem_append_left _ (mem_family_self x), fun y hy =>
        List.mem_append_right _ (mem_familyOfItems xs y hy)⟩

theorem mem_familyOfItems_of_parts :
    ∀ xs : List Value, ∀ x ∈ familyOfItems xs, ∀ y ∈ x.parts, y ∈ familyOfItems xs
  | [] => by simp [familyOfItems]
  | x :: xs => by
      rw [familyOfItems]
      refine List.forall_mem_append.2 ⟨fun z hz y hy => ?_, fun z hz y hy => ?_⟩
      · exact List.mem_append_left _ (mem_family_of_parts x z hz y hy)
      · exact List.mem_append_right _ (mem_familyOfItems_of_parts xs z hz y hy)

theorem mem_familyOfEntries :
    ∀ es : List (Value × Value), ∀ y ∈ es.map Prod.snd, y ∈ familyOfEntries es
  | [] => List.forall_mem_nil _
  | (_, v) :: es => by
      rw [familyOfEntries]
      exact List.forall_mem_cons.2 ⟨List.mem_append_left _ (mem_family_self v), fun y hy =>
        List.mem_append_right _ (mem_familyOfEntries es y hy)⟩

theorem mem_familyOfEntries_of_parts : ∀ es : List (Value × Value), ∀ x ∈ familyOfEntries es,
    ∀ y ∈ x.parts, y ∈ familyOfEntries es
  | [] => by simp [familyOfEntries]
  | (_, v) :: es => by
      rw [familyOfEntries]
      refine List.forall_mem_append.2 ⟨fun z hz y hy => ?_, fun z hz y hy => ?_⟩
      · exact List.mem_append_left _ (mem_family_of_parts v z hz y hy)
      · exact List.mem_append_right _ (mem_familyOfEntries_of_parts es z hz y hy)

theorem mem_familyOfNamed :
    ∀ vs : List (String × Value), ∀ y ∈ vs.map Prod.snd, y ∈ familyOfNamed vs
  | [] => List.forall_mem_nil _
  | (_, v) :: vs => by
      rw [familyOfNamed]
      exact List.forall_mem_cons.2 ⟨List.mem_append_left _ (mem_family_self v), fun y hy =>
        List.mem_append_right _ (mem_familyOfNamed vs y hy)⟩

theorem mem_familyOfNamed_of_parts : ∀ vs : List (String × Value), ∀ x ∈ familyOfNamed vs,
    ∀ y ∈ x.parts, y ∈ familyOfNamed vs
  | [] => by simp [familyOfNamed]
  | (_, v) :: vs => by
      rw [familyOfNamed]
      refine List.forall_mem_append.2 ⟨fun z hz y hy => ?_, fun z hz y hy => ?_⟩
      · exact List.mem_append_left _ (mem_family_of_parts v z hz y hy)
      · exact List.mem_append_right _ (mem_familyOfNamed_of_parts vs z hz y hy)

end

/-! ### Parts of opened values -/

theorem entries?_eq_some_iff {es : List (Value × Value)} :
    v.entries? = some es ↔ v.opened = .dict es := by
  rw [entries?]
  split
  · rename_i h
    rw [h, Option.some.injEq, Value.dict.injEq]
  · rename_i h
    exact iff_of_false (Option.some_ne_none es).symm (h es)

theorem items?_eq_none_of_entries? {es : List (Value × Value)} (h : v.entries? = some es) :
    v.items? = none := by
  rw [items?, entries?_eq_some_iff.1 h]

theorem mem_parts_of_entries? {es : List (Value × Value)} {e : Value × Value}
    (h : v.entries? = some es) (he : e ∈ es) : e.2 ∈ v.parts := by
  rw [parts, entries?_eq_some_iff.1 h]
  exact List.mem_map_of_mem he

theorem within_of_opened (h : Within x v.opened) : Within x v := by
  cases v with
  | knot k => exact .knot h
  | _ => exact h

/-- The parts of a value are in it. -/
theorem within_of_parts (h : x ∈ v.parts) : Within x v := by
  refine within_of_opened ?_
  rw [parts] at h
  split at h
  · rename_i xs hv
    rw [hv]
    exact .list h .self
  · rename_i xs hv
    rw [hv]
    exact .tuple h .self
  · rename_i es hv
    obtain ⟨e, he, rfl⟩ := List.mem_map.1 h
    rw [hv]
    exact .dict he .self
  · rename_i n vs k p hv
    obtain ⟨e, he, rfl⟩ := List.mem_map.1 h
    rw [hv]
    exact .nested he .self
  · cases h

theorem IsRaw.of_entries? {es : List (Value × Value)} {e : Value × Value} (hv : v.IsRaw)
    (h : v.entries? = some es) (he : e ∈ es) : e.2.IsRaw :=
  hv.of_within (within_of_parts (mem_parts_of_entries? h he))

theorem IsRaw.of_items? {xs : List Value} (hv : v.IsRaw) (h : v.items? = some xs) (hx : x ∈ xs) :
    x.IsRaw := by
  rw [items?] at h
  split at h
  · rename_i ys hys
    obtain rfl := Option.some.inj h
    refine hv.of_within (within_of_parts ?_)
    rwa [parts, hys]
  · rename_i ys hys
    obtain rfl := Option.some.inj h
    refine hv.of_within (within_of_parts ?_)
    rwa [parts, hys]
  · obtain rfl := Option.some.inj h
    obtain ⟨s, -, rfl⟩ := List.mem_map.1 hx
    exact (isScalar_toValue s).isRaw
  · cases h

/-! ### Finite values -/

/-- No knot is in the value. -/
def IsFinite (v : Value) : Prop := ∀ k, ¬ Within (.knot k) v

theorem IsFinite.of_within (h : v.IsFinite) (hx : Within x v) : x.IsFinite :=
  fun k hk => h k (hk.trans hx)

theorem IsFinite.opened (h : v.IsFinite) : v.opened = v := by
  cases v with
  | knot k => exact absurd .self (h k)
  | _ => rfl

theorem IsScalar.isFinite (hv : v.IsScalar) : v.IsFinite := by
  intro k hk
  obtain rfl := hv.eq_of_within hk
  exact hv

theorem isFinite_dict {es : List (Value × Value)} (h : ∀ e ∈ es, e.2.IsFinite) :
    (dict es).IsFinite := by
  intro k hk
  cases hk with
  | dict he hk => exact h _ he k hk

theorem sizeOf_snd_lt {α : Type} [SizeOf α] {e : α × Value} {es : List (α × Value)} (h : e ∈ es) :
    sizeOf e.2 < sizeOf es := by
  have := List.sizeOf_lt_of_mem h
  have : sizeOf e = 1 + sizeOf e.1 + sizeOf e.2 := Prod.mk.sizeOf_spec e.1 e.2
  omega

/-- The parts of a finite value are finite and smaller. -/
theorem IsFinite.of_parts (h : v.IsFinite) (hx : x ∈ v.parts) :
    x.IsFinite ∧ sizeOf x < sizeOf v := by
  rw [parts, h.opened] at hx
  cases v with
  | list xs =>
      have : sizeOf x < sizeOf xs := List.sizeOf_lt_of_mem hx
      exact ⟨h.of_within (.list hx .self), by rw [Value.list.sizeOf_spec]; omega⟩
  | tuple xs =>
      have : sizeOf x < sizeOf xs := List.sizeOf_lt_of_mem hx
      exact ⟨h.of_within (.tuple hx .self), by rw [Value.tuple.sizeOf_spec]; omega⟩
  | dict es =>
      obtain ⟨e, he, rfl⟩ := List.mem_map.1 hx
      have := sizeOf_snd_lt he
      exact ⟨h.of_within (.dict he .self), by rw [Value.dict.sizeOf_spec]; omega⟩
  | nested n vs k p =>
      obtain ⟨e, he, rfl⟩ := List.mem_map.1 hx
      have := sizeOf_snd_lt he
      exact ⟨h.of_within (.nested he .self), by rw [Value.nested.sizeOf_spec]; omega⟩
  | _ => cases hx

end Value

end TypeCatalog
