import TypeCatalog.Proofs.Value.Fields
import TypeCatalog.Value.Opened

/-! # Values — what is in a value

A value is in another one if it is the other one, or is in one of its items, of the values of its
entries, or of the properties it has as an annotation.  The keys of a mapping are not counted, nor
are the items of a set: in a document they are scalars.  What is in a knot is in what it opens to.

* `Within`: a value is in another one.
* `IsFixed`: a value that cannot be changed, at whatever depth.
* `isFixed_iff`: there is no list, no set and no mapping in it.
* `IsRaw`: there is no annotation in the value.
* `isRaw_value`: nor is there one in what a table of parts holds.
-/

namespace TypeCatalog.Value

/-- The value `x` is all of a value or is inside it, at some depth. -/
inductive Within (x : Value) : Value → Prop where
  | self : Within x x
  | tuple {xs : List Value} {y : Value} (hy : y ∈ xs) (h : Within x y) : Within x (.tuple xs)
  | list {xs : List Value} {y : Value} (hy : y ∈ xs) (h : Within x y) : Within x (.list xs)
  | dict {es : List (Value × Value)} {e : Value × Value} (he : e ∈ es) (h : Within x e.2) :
      Within x (.dict es)
  | nested {n : String} {vs : List (String × Value)} {k : Option ElementKind} {p : Option Int}
      {e : String × Value} (he : e ∈ vs) (h : Within x e.2) : Within x (.nested n vs k p)
  | knot {k : Knot} (h : Within x k.opened) : Within x (.knot k)

theorem Within.trans {x y z : Value} (h : Within x y) (h' : Within y z) : Within x z := by
  induction h' with
  | self => exact h
  | tuple hy _ ih => exact .tuple hy ih
  | list hy _ ih => exact .list hy ih
  | dict he _ ih => exact .dict he ih
  | nested he _ ih => exact .nested he ih
  | knot _ ih => exact .knot ih

theorem Within.of_field? {n : String} {v : Value} {es : List (Value × Value)}
    (h : field? n es = some v) : Within v (.dict es) :=
  .dict (mem_of_field? h) .self

/-! ### Fixed values -/

/-- A list, a set or a mapping, which can be changed; a knot is a list or a mapping. -/
inductive IsOpen : Value → Prop where
  | list (xs : List Value) : IsOpen (.list xs)
  | set (ss : List Scalar) : IsOpen (.set ss)
  | dict (es : List (Value × Value)) : IsOpen (.dict es)
  | knot (k : Knot) : IsOpen (.knot k)

theorem IsOpen.within_tuple_iff {x : Value} {xs : List Value} (hx : x.IsOpen) :
    Within x (.tuple xs) ↔ ∃ y ∈ xs, Within x y := by
  constructor
  · rintro (_ | ⟨hy, h⟩)
    · cases hx
    · exact ⟨_, hy, h⟩
  · rintro ⟨y, hy, h⟩
    exact .tuple hy h

theorem IsOpen.within_nested_iff {x : Value} {n : String} {vs : List (String × Value)}
    {k : Option ElementKind} {p : Option Int} (hx : x.IsOpen) :
    Within x (.nested n vs k p) ↔ ∃ e ∈ vs, Within x e.2 := by
  constructor
  · intro h
    cases h with
    | self => cases hx
    | nested he h => exact ⟨_, he, h⟩
  · rintro ⟨e, he, h⟩
    exact .nested he h

/-- A value without parts. -/
def IsScalar : Value → Prop
  | .tuple _ | .set _ | .list _ | .dict _ | .nested _ _ _ _ | .knot _ => False
  | _                                                                 => True

/-- A scalar, or a tuple or an annotation whose values are fixed. -/
inductive IsFixed : Value → Prop where
  | scalar {v : Value} (h : v.IsScalar) : IsFixed v
  | tuple {xs : List Value} (items : ∀ x ∈ xs, IsFixed x) : IsFixed (.tuple xs)
  | nested {n : String} {vs : List (String × Value)} {k : Option ElementKind} {p : Option Int}
      (values : ∀ e ∈ vs, IsFixed e.2) : IsFixed (.nested n vs k p)

theorem IsOpen.not_isFixed {v : Value} (h : v.IsOpen) : ¬ v.IsFixed := by
  rintro (h' | _ | _)
  · cases h <;> exact h'
  · cases h
  · cases h

theorem IsScalar.eq_of_within {x v : Value} (hv : v.IsScalar) (h : Within x v) : x = v := by
  cases h with
  | self => rfl
  | tuple | list | dict | nested | knot => exact hv.elim

/-- What is in a fixed value is fixed. -/
theorem IsFixed.of_within {x v : Value} (hv : v.IsFixed) (h : Within x v) : x.IsFixed := by
  induction hv with
  | scalar hv => exact hv.eq_of_within h ▸ .scalar hv
  | tuple items ih =>
      cases h with
      | self => exact .tuple items
      | tuple hy h => exact ih _ hy h
  | nested values ih =>
      cases h with
      | self => exact .nested values
      | nested he h => exact ih _ he h

-- Along the constructors of values.
mutual

theorem isFixed_of_within : ∀ v, (∀ x, Within x v → ¬ x.IsOpen) → IsFixed v
  | .tuple xs, h => .tuple (isFixed_of_items xs fun _ hy x hx => h x (.tuple hy hx))
  | .list xs, h => absurd (.list xs) (h _ .self)
  | .set ss, h => absurd (.set ss) (h _ .self)
  | .dict es, h => absurd (.dict es) (h _ .self)
  | .knot k, h => absurd (.knot k) (h _ .self)
  | .nested _ vs _ _, h => .nested (isFixed_of_named vs fun _ he x hx => h x (.nested he hx))
  | .null, _ | .bool _, _ | .int _, _ | .float _, _ | .notNumber, _ | .text _, _ | .bytes _, _
  | .date _, _ | .moment _, _ => .scalar trivial

theorem isFixed_of_items : ∀ xs : List Value, (∀ y ∈ xs, ∀ x, Within x y → ¬ x.IsOpen) →
    ∀ y ∈ xs, IsFixed y
  | [], _ => List.forall_mem_nil _
  | y :: ys, h => by
      obtain ⟨hy, hys⟩ := List.forall_mem_cons.1 h
      exact List.forall_mem_cons.2 ⟨isFixed_of_within y hy, isFixed_of_items ys hys⟩

theorem isFixed_of_named : ∀ vs : List (String × Value),
    (∀ e ∈ vs, ∀ x, Within x e.2 → ¬ x.IsOpen) → ∀ e ∈ vs, IsFixed e.2
  | [], _ => List.forall_mem_nil _
  | (n, v) :: vs, h => by
      obtain ⟨hv, hvs⟩ := List.forall_mem_cons.1 h
      exact List.forall_mem_cons.2 ⟨isFixed_of_within v hv, isFixed_of_named vs hvs⟩

end

/-- **A value is fixed** just if there is no list, no set and no mapping in it. -/
theorem isFixed_iff {v : Value} : v.IsFixed ↔ ∀ x, Within x v → ¬ x.IsOpen :=
  ⟨fun hv _ h hx => hx.not_isFixed (hv.of_within h), isFixed_of_within v⟩

/-! ### Raw values -/

/-- There is no annotation in the value, though there may be what will be taken for one. -/
def IsRaw (v : Value) : Prop := ∀ n vs k p, ¬ Within (.nested n vs k p) v

theorem IsRaw.of_within {x v : Value} (hv : v.IsRaw) (h : Within x v) : x.IsRaw :=
  fun n vs k p hn => hv n vs k p (hn.trans h)

theorem IsScalar.isRaw {v : Value} (hv : v.IsScalar) : v.IsRaw := by
  intro n vs k p h
  rw [← hv.eq_of_within h] at hv
  exact hv

theorem isRaw_dict {es : List (Value × Value)} (h : ∀ e ∈ es, e.2.IsRaw) : IsRaw (.dict es) := by
  rintro n vs k p (_ | _ | _ | ⟨he, hn⟩)
  exact h _ he n vs k p hn

/-! ### What a table holds -/

theorem isScalar_toValue (s : Scalar) : s.toValue.IsScalar := by
  cases s <;> trivial

/-- What is met in going through the values of a table: a knot, a layer, or a pair in a layer. -/
inductive IsHeld (cells : Cells) : Value → Prop where
  | knot {k : Knot} (h : k.cells = cells) : IsHeld cells (.knot k)
  | scalar {v : Value} (h : v.IsScalar) : IsHeld cells v
  | set (ss : List Scalar) : IsHeld cells (.set ss)
  | list (is : List Nat) : IsHeld cells (.list (is.map cells.value))
  | pairs (ps : List (Nat × Nat)) :
      IsHeld cells (.list (ps.map fun p => .tuple [cells.value p.1, cells.value p.2]))
  | pair (i j : Nat) : IsHeld cells (.tuple [cells.value i, cells.value j])
  | dict (es : List (Scalar × Nat)) :
      IsHeld cells (.dict (es.map fun e => (e.1.toValue, cells.value e.2)))

theorem isHeld_opened (cells : Cells) (i : Nat) : IsHeld cells (cells.value i).opened := by
  rw [cells.opened_value]
  cases cells.layer i with
  | scalar s => exact .scalar (isScalar_toValue s)
  | set ss => exact .set ss
  | list is => exact .list is
  | pairs ps =>
      rw [Layer.map, Layer.toValue, List.map_map]
      exact .pairs ps
  | dict es =>
      rw [Layer.map, Layer.toValue, List.map_map]
      exact .dict es

theorem isHeld_value (cells : Cells) (i : Nat) : IsHeld cells (cells.value i) := by
  cases h : cells.ends cells.depth i with
  | false => rw [Cells.value, dif_pos h]; exact .knot rfl
  | true =>
      have opened := isHeld_opened cells i
      rwa [cells.opened_value, ← Cells.value_of_ends h] at opened

/-- What is in what a table holds, the table holds. -/
theorem isHeld_of_within {cells : Cells} {x v : Value} (h : Within x v) (hv : IsHeld cells v) :
    IsHeld cells x := by
  induction h with
  | self => exact hv
  | tuple hy _ ih =>
      cases hv with
      | scalar h => exact h.elim
      | pair i j =>
          rcases List.mem_cons.1 hy with rfl | hy
          · exact ih (isHeld_value cells i)
          · rw [List.mem_singleton.1 hy] at ih
            exact ih (isHeld_value cells j)
  | list hy _ ih =>
      cases hv with
      | scalar h => exact h.elim
      | list is =>
          obtain ⟨i, -, rfl⟩ := List.mem_map.1 hy
          exact ih (isHeld_value cells i)
      | pairs ps =>
          obtain ⟨p, -, rfl⟩ := List.mem_map.1 hy
          exact ih (.pair p.1 p.2)
  | dict he _ ih =>
      cases hv with
      | scalar h => exact h.elim
      | dict es =>
          obtain ⟨e, -, rfl⟩ := List.mem_map.1 he
          exact ih (isHeld_value cells e.2)
  | nested he _ ih =>
      cases hv with
      | scalar h => exact h.elim
  | @knot k _ ih =>
      cases hv with
      | scalar h => exact h.elim
      | knot h =>
          subst h
          have held := isHeld_opened k.cells k.root
          rw [Cells.value_root] at held
          exact ih held

/-- **What a table holds** has no annotation in it. -/
theorem isRaw_value (cells : Cells) (i : Nat) : (cells.value i).IsRaw := by
  intro n vs k p hn
  cases isHeld_of_within hn (isHeld_value cells i) with
  | scalar h => exact h

end TypeCatalog.Value
