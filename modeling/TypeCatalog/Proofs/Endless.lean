import Mathlib.Data.Set.Card
import Mathlib.Logic.Relation
import Mathlib.Order.WellFounded

/-! # Ways without an end

A relation leads from one thing to others.  Among finitely many things a way that is long enough
meets one of them twice, and can then be gone round for ever.

* `Endless`: a way that has no end.
* `endless_of_goes`: so there is one if there is a way with as many steps as there are things.
-/

namespace TypeCatalog

open Relation (ReflTransGen TransGen)

variable {α : Type} {R : α → α → Prop} {x y : α} {n : Nat}

/-- From `x` the relation leads on for ever. -/
def Endless (R : α → α → Prop) (x : α) : Prop :=
  ∃ way : Nat → α, way 0 = x ∧ ∀ n, R (way n) (way (n + 1))

/-- From `x` the relation leads on for so many steps. -/
inductive Goes (R : α → α → Prop) : Nat → α → Prop where
  | zero (x : α) : Goes R 0 x
  | succ {n : Nat} {x y : α} (step : R x y) (rest : Goes R n y) : Goes R (n + 1) x

theorem not_endless_iff : ¬ Endless R x ↔ Acc (fun y x => R x y) x :=
  not_iff_comm.1 (not_acc_iff_exists_descending_chain (r := fun y x => R x y))

theorem endless_iff_exists : Endless R x ↔ ∃ y, R x y ∧ Endless R y := by
  constructor
  · rintro ⟨way, rfl, steps⟩
    exact ⟨way 1, steps 0, fun n => way (n + 1), rfl, fun n => steps (n + 1)⟩
  · rintro ⟨y, hy, way, rfl, steps⟩
    refine ⟨fun n => n.casesOn x way, rfl, fun n => ?_⟩
    cases n with
    | zero => exact hy
    | succ n => exact steps n

/-- What the relation leads back to can be left in the same way again. -/
theorem endless_of_round (h : TransGen R x x) : Endless R x := by
  by_contra ends
  have acc : Acc (TransGen fun y x => R x y) x := (not_endless_iff.1 ends).transGen
  have round : TransGen (fun y x => R x y) x x := Relation.transGen_swap.2 h
  clear h ends
  induction acc with
  | intro x _ ih => exact ih x round round

/-- Where there is an end, every way has fewer steps than there are things to be reached. -/
theorem Goes.lt_ncard (h : Goes R n x) (finite : {y | ReflTransGen R x y}.Finite)
    (ends : ¬ Endless R x) : n < {y | ReflTransGen R x y}.ncard := by
  induction h with
  | zero x => exact (Set.ncard_pos finite).2 ⟨x, .refl⟩
  | @succ n x y step _ ih =>
      have smaller : {z | ReflTransGen R y z} ⊂ {z | ReflTransGen R x z} := by
        refine Set.ssubset_iff_subset_ne.2 ⟨fun z hz => .head step hz, fun same => ?_⟩
        -- were `x` reached from `y`, the way could be gone round
        have back : x ∈ {z | ReflTransGen R y z} := same ▸ ReflTransGen.refl
        exact ends (endless_of_round (.head' step back))
      have rest := ih (finite.subset smaller.subset) fun h =>
        ends (endless_iff_exists.2 ⟨y, step, h⟩)
      exact Nat.lt_of_le_of_lt rest (Set.ncard_lt_ncard smaller finite)

/-- **A way through finitely many things** that has as many steps as there are has no end. -/
theorem endless_of_goes (xs : List α) (closed : ∀ y ∈ xs, ∀ z, R y z → z ∈ xs) (hx : x ∈ xs)
    (h : Goes R xs.length x) : Endless R x := by
  by_contra ends
  have reached : {y | ReflTransGen R x y} ⊆ {y | y ∈ xs} := by
    intro y hy
    induction hy with
    | refl => exact hx
    | tail _ step ih => exact closed _ ih _ step
  have few := h.lt_ncard (xs.finite_toSet.subset reached) ends
  have all : {y | y ∈ xs}.ncard ≤ xs.length := by
    classical
    rw [← List.coe_toFinset, Set.ncard_coe_finset]
    exact xs.toFinset_card_le
  have := Set.ncard_le_ncard reached xs.finite_toSet
  omega

end TypeCatalog
