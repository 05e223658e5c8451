import TypeCatalog.Proofs.Endless
import TypeCatalog.Proofs.Value.Keys
import TypeCatalog.Proofs.Value.Parts
import TypeCatalog.Settings.Layers

/-! # Settings — where laying over comes to an end

A mapping is laid over another one key by key, and what both have at a key is laid over in its turn.
There is no end to that if an endless path of keys leads to mappings in both, as it may where both
hold themselves.  Laying over is done with a number of levels.  It is that of the pairs of values
that can be met, so that a path that is longer meets one of them twice.

* `Leads`: a key leads from two mappings to what they have at it; `Ends`.
* `ends_of_isFinite`: there is an end over whatever is finite.
* `overlayTo_levels_eq_none_iff`: the levels are enough just if there is an end.
* `overlayTo_of_le`: more levels make no difference.
-/

namespace TypeCatalog.Layers

open Value

variable {k v w x : Value} {es fs : List (Value × Value)}

/-! ### Ends -/

/-- A key of the upper mapping that the lower one has leads from the two to what they have at it. -/
inductive Leads : Value × Value → Value × Value → Prop where
  | key {v w x : Value} {es fs : List (Value × Value)} {f : Value × Value}
      (hv : v.entries? = some es) (hw : w.entries? = some fs) (hf : f ∈ fs)
      (hx : lookup f.1 es = some x) : Leads (v, w) (x, f.2)

/-- No endless path of keys leads to mappings in both. -/
def Ends (lower upper : Value) : Prop := ¬ Endless Leads (lower, upper)

theorem not_ends_iff : ¬ Ends v w ↔ ∃ es fs f x, v.entries? = some es ∧ w.entries? = some fs ∧
    f ∈ fs ∧ lookup f.1 es = some x ∧ ¬ Ends x f.2 := by
  simp only [Ends, not_not]
  rw [endless_iff_exists]
  constructor
  · rintro ⟨y, h, endless⟩
    cases h with
    | key hv hw hf hx => exact ⟨_, _, _, _, hv, hw, hf, hx, endless⟩
  · rintro ⟨es, fs, f, x, hv, hw, hf, hx, endless⟩
    exact ⟨_, .key hv hw hf hx, endless⟩

/-- What two mappings have at a name comes to an end if they do. -/
theorem Ends.of_lookup {y : Value} (h : Ends v w) (hk : k.IsName) (hv : v.entries? = some es)
    (hw : w.entries? = some fs) (hx : lookup k es = some x) (hy : lookup k fs = some y) :
    Ends x y := by
  by_contra endless
  exact not_ends_iff.2 ⟨es, fs, _, x, hv, hw, mem_of_lookup hk hy, hx, endless⟩ h

theorem ends_nil : Ends (.dict []) w := by
  by_contra endless
  obtain ⟨es, _, _, _, hes, _, _, hx, _⟩ := not_ends_iff.1 endless
  obtain rfl := Option.some.inj hes
  cases hx

/-- Over a finite value, nothing goes on for ever. -/
theorem ends_of_isFinite (hw : w.IsFinite) : Ends v w := by
  induction hn : sizeOf w using Nat.strong_induction_on generalizing v w with
  | _ n ih =>
      by_contra endless
      obtain ⟨es, fs, f, x, -, hfs, hf, -, endless⟩ := not_ends_iff.1 endless
      obtain ⟨finite, smaller⟩ := hw.of_parts (mem_parts_of_entries? hfs hf)
      exact endless (ih _ (hn ▸ smaller) finite rfl)

/-- Nor does it over a tree. -/
theorem ends_of_isTree (hw : IsTree w) : Ends v w := by
  induction hw generalizing v with
  | leaf leaf =>
      by_contra endless
      obtain ⟨_, _, _, _, _, hfs, _⟩ := not_ends_iff.1 endless
      cases leaf.symm.trans hfs
  | dict keys apart values ih =>
      by_contra endless
      obtain ⟨_, _, f, _, _, hfs, hf, _, endless⟩ := not_ends_iff.1 endless
      obtain rfl := Option.some.inj hfs
      exact endless (ih f hf)

/-! ### So many levels -/

/-- Putting entries together gives none if one of the values is not there. -/
theorem mapM_eq_none_iff {α β : Type} {g : α → Option β} {l : List α} :
    l.mapM g = none ↔ ∃ a ∈ l, g a = none := by
  induction l with
  | nil => simp
  | cons a l ih =>
      rw [List.mapM_cons, List.exists_mem_cons_iff, ← ih]
      cases g a <;> cases l.mapM g <;> simp

theorem mapM_congr {α β : Type} {g h : α → Option β} {l : List α} (same : ∀ a ∈ l, g a = h a) :
    l.mapM g = l.mapM h := by
  induction l with
  | nil => rfl
  | cons a l ih =>
      obtain ⟨ha, hl⟩ := List.forall_mem_cons.1 same
      rw [List.mapM_cons, List.mapM_cons, ha, ih hl]

theorem mapM_eq_some_map {α β : Type} {g : α → Option β} {h : α → β} {l : List α}
    (all : ∀ a ∈ l, g a = some (h a)) : l.mapM g = some (l.map h) := by
  induction l with
  | nil => rfl
  | cons a l ih =>
      obtain ⟨ha, hl⟩ := List.forall_mem_cons.1 all
      simp [ha, ih hl]

theorem mergeBy_eq_none_iff {laid? : Option Value → Value → Option Value} :
    mergeBy laid? es fs = none ↔ ∃ f ∈ fs, laid? (lookup f.1 es) f.2 = none := by
  simp [mergeBy, mapM_eq_none_iff]

theorem mergeBy_congr {laid? laid'? : Option Value → Value → Option Value}
    (h : ∀ f ∈ fs, laid? (lookup f.1 es) f.2 = laid'? (lookup f.1 es) f.2) :
    mergeBy laid? es fs = mergeBy laid'? es fs := by
  rw [mergeBy, mergeBy, mapM_congr fun f hf => by rw [h f hf]]

theorem overlayTo_succ_mappings {n : Nat} (hv : v.entries? = some es) (hw : w.entries? = some fs) :
    overlayTo (n + 1) (some v) w = (mergeBy (overlayTo n) es fs).map .dict := by
  simp only [overlayTo, Option.bind_some, hv, hw]

/-- What is not two mappings is not looked into. -/
theorem overlayTo_succ_other {n : Nat} {lower : Option Value}
    (h : lower.bind entries? = none ∨ w.entries? = none) :
    overlayTo (n + 1) lower w = some w := by
  rw [overlayTo]
  split
  · rename_i hes hfs
    rcases h with h | h
    · cases h.symm.trans hes
    · cases h.symm.trans hfs
  · rfl

/-- By induction on the levels: if they are not enough, so many keys lead on. -/
theorem goes_of_overlayTo {n : Nat} (h : overlayTo (n + 1) (some v) w = none) :
    Goes Leads n (v, w) := by
  induction n generalizing v w with
  | zero => exact .zero _
  | succ n ih =>
      cases hv : v.entries? with
      | none =>
          rw [overlayTo_succ_other (.inl ((Option.bind_some _ _).trans hv))] at h
          cases h
      | some es =>
          cases hw : w.entries? with
          | none => cases (overlayTo_succ_other (.inr hw)).symm.trans h
          | some fs =>
              rw [overlayTo_succ_mappings hv hw, Option.map_eq_none_iff, mergeBy_eq_none_iff] at h
              obtain ⟨f, hf, h⟩ := h
              cases hx : lookup f.1 es with
              | none =>
                  rw [hx, overlayTo_succ_other (.inl rfl)] at h
                  cases h
              | some x => exact .succ (.key hv hw hf hx) (ih (hx ▸ h))

/-- No levels are enough where there is no end. -/
theorem overlayTo_of_endless {n : Nat} (h : ¬ Ends v w) : overlayTo n (some v) w = none := by
  induction n generalizing v w with
  | zero => rfl
  | succ n ih =>
      obtain ⟨es, fs, f, x, hv, hw, hf, hx, endless⟩ := not_ends_iff.1 h
      rw [overlayTo_succ_mappings hv hw, Option.map_eq_none_iff, mergeBy_eq_none_iff]
      exact ⟨f, hf, by rw [hx]; exact ih endless⟩

/-- All pairs that keys lead to are among those that can be met. -/
theorem mem_product_of_leads {y z : Value × Value}
    (hy : y ∈ v.family ×ˢ w.family) (h : Leads y z) : z ∈ v.family ×ˢ w.family := by
  cases h with
  | key ha hb hf hx =>
      obtain ⟨hav, hbw⟩ := List.mem_product.1 hy
      obtain ⟨e, he, rfl⟩ := exists_mem_of_lookup hx
      exact List.mem_product.2 ⟨mem_family_of_parts v _ hav _ (mem_parts_of_entries? ha he),
        mem_family_of_parts w _ hbw _ (mem_parts_of_entries? hb hf)⟩

/-- **The levels that can be met are enough** where there is an end. -/
theorem overlayTo_levels_eq_none_iff :
    overlayTo (levels v w + 1) (some v) w = none ↔ ¬ Ends v w := by
  refine ⟨fun h => not_not.2 ?_, overlayTo_of_endless⟩
  refine endless_of_goes (v.family ×ˢ w.family) (fun y hy z => mem_product_of_leads hy)
    (List.mem_product.2 ⟨mem_family_self v, mem_family_self w⟩) ?_
  rw [List.length_product]
  exact goes_of_overlayTo h

/-- More levels make no difference where they are enough. -/
theorem overlayTo_succ {n : Nat} {lower : Option Value} (h : overlayTo n lower w ≠ none) :
    overlayTo (n + 1) lower w = overlayTo n lower w := by
  induction n generalizing lower w with
  | zero => exact absurd rfl h
  | succ n ih =>
      by_cases other : lower.bind entries? = none ∨ w.entries? = none
      · rw [overlayTo_succ_other other, overlayTo_succ_other other]
      · rw [not_or] at other
        obtain ⟨es, hv⟩ := Option.ne_none_iff_exists'.1 other.1
        obtain ⟨fs, hw⟩ := Option.ne_none_iff_exists'.1 other.2
        obtain ⟨v, rfl, hv⟩ := Option.bind_eq_some_iff.1 hv
        rw [overlayTo_succ_mappings hv hw] at h ⊢
        rw [overlayTo_succ_mappings hv hw]
        have all : ∀ f ∈ fs, overlayTo n (lookup f.1 es) f.2 ≠ none := fun f hf hn =>
          h (Option.map_eq_none_iff.2 (mergeBy_eq_none_iff.2 ⟨f, hf, hn⟩))
        exact congrArg (Option.map Value.dict) (mergeBy_congr fun f hf => ih (all f hf))

theorem overlayTo_of_le {m n : Nat} {lower : Option Value} (h : overlayTo m lower w = some x)
    (le : m ≤ n) : overlayTo n lower w = some x := by
  induction le with
  | refl => exact h
  | step _ ih => rw [overlayTo_succ (by rw [ih]; exact nofun), ih]

end TypeCatalog.Layers
