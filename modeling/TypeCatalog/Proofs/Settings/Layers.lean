import TypeCatalog.Proofs.Checked
import TypeCatalog.Proofs.Settings.Ends

/-! # Settings — layers and checks

A mapping laid over another one has the entries of both, each with the upper value laid over the
lower one, if there is an end to that.  Laying over knows nothing of checks, but a check that looks
at the fields one by one passes the layered value where it passes both.

* `merge?_eq_some_iff`, `merge?_eq_none_iff`: laying over comes to its end, or there is none.
* `lookup_merge_of_isName`: the entries of layered mappings.
* `Stable`: a check that passes the one value laid over the other where it passes both.
-/

namespace TypeCatalog.Layers

open Value

variable {n : String} {k v w x : Value} {es fs gs : List (Value × Value)}

/-! ### Layered values -/

/-- The upper value laid over the lower one; the upper one if that has no end. -/
def overlay (lower : Option Value) (upper : Value) : Value :=
  match lower with
  | none   => upper
  | some v => (overlayTo (levels v upper + 1) (some v) upper).getD upper

/-- The upper entries, each laid over what the lower mapping has, put into the lower one. -/
def merge (lower upper : List (Value × Value)) : List (Value × Value) :=
  putAll lower (upper.map fun f => (f.1, overlay (lookup f.1 lower) f.2))

@[simp] theorem overlay_none (w : Value) : overlay none w = w := rfl

/-- Whatever levels are enough, the value is the same. -/
theorem eq_overlay_of_overlayTo {m : Nat} {lower : Option Value}
    (h : overlayTo m lower w = some x) : x = overlay lower w := by
  cases lower with
  | none =>
      cases m with
      | zero => cases h
      | succ m => exact (Option.some.inj ((overlayTo_succ_other (.inl rfl)).symm.trans h)).symm
  | some v =>
      have ends : Ends v w := by
        by_contra endless
        cases (overlayTo_of_endless endless).symm.trans h
      obtain ⟨y, hy⟩ := Option.ne_none_iff_exists'.1
        (mt overlayTo_levels_eq_none_iff.1 (not_not.2 ends))
      have both := overlayTo_of_le hy (Nat.le_max_left _ m)
      rw [overlayTo_of_le h (Nat.le_max_right _ m)] at both
      rw [overlay, hy, Option.getD_some, Option.some.inj both]

/-- Where there is an end, so many levels as are enough lay all of the entries over. -/
theorem mergeBy_eq_some {n : Nat}
    (h : ∀ f ∈ fs, overlayTo n (lookup f.1 es) f.2 ≠ none) :
    mergeBy (overlayTo n) es fs = some (merge es fs) := by
  have all : ∀ f ∈ fs, (overlayTo n (lookup f.1 es) f.2).map (f.1, ·) =
      some (f.1, overlay (lookup f.1 es) f.2) := by
    intro f hf
    obtain ⟨x, hx⟩ := Option.ne_none_iff_exists'.1 (h f hf)
    rw [hx, ← eq_overlay_of_overlayTo hx]
    rfl
  rw [mergeBy, mapM_eq_some_map all]
  rfl

/-- The levels that can be met in two mappings are enough for all of their entries. -/
theorem enough (ends : Ends v w) (hv : v.entries? = some es) (hw : w.entries? = some fs) :
    ∀ f ∈ fs, overlayTo (levels v w) (lookup f.1 es) f.2 ≠ none := by
  intro f hf h
  refine overlayTo_levels_eq_none_iff.1 ?_ ends
  rw [overlayTo_succ_mappings hv hw, Option.map_eq_none_iff, mergeBy_eq_none_iff]
  exact ⟨f, hf, h⟩

/-- **One mapping laid over another**, where there is an end. -/
theorem overlay_mappings (ends : Ends v w) (hv : v.entries? = some es) (hw : w.entries? = some fs) :
    overlay (some v) w = .dict (merge es fs) := by
  rw [overlay, overlayTo_succ_mappings hv hw, mergeBy_eq_some (enough ends hv hw)]
  rfl

theorem overlay_dict (ends : Ends (.dict es) (.dict fs)) :
    overlay (some (.dict es)) (.dict fs) = .dict (merge es fs) :=
  overlay_mappings ends rfl rfl

/-- The running merge is the merge, where there is an end. -/
theorem merge?_eq_some (ends : Ends (.dict es) (.dict fs)) : merge? es fs = some (merge es fs) :=
  mergeBy_eq_some (enough ends rfl rfl)

/-- **There is no merge** if endless paths of keys lead to mappings in both. -/
theorem merge?_eq_none_iff : merge? es fs = none ↔ ¬ Ends (.dict es) (.dict fs) := by
  rw [← overlayTo_levels_eq_none_iff, overlayTo_succ_mappings rfl rfl, Option.map_eq_none_iff]
  rfl

theorem merge?_eq_some_iff : merge? es fs = some gs ↔
    Ends (.dict es) (.dict fs) ∧ merge es fs = gs := by
  by_cases ends : Ends (.dict es) (.dict fs)
  · simp [merge?_eq_some ends, ends]
  · simp [merge?_eq_none_iff.2 ends, ends]

/-- What is no mapping takes the place of what it is laid over. -/
theorem overlay_of_leaf {lower : Option Value} (h : w.entries? = none) : overlay lower w = w := by
  cases lower with
  | none => rfl
  | some v => rw [overlay, overlayTo_succ_other (.inr h), Option.getD_some]

/-- A mapping takes the place of what is none. -/
theorem overlay_over_leaf {lower : Option Value} (h : lower.bind entries? = none) :
    overlay lower w = w := by
  cases lower with
  | none => rfl
  | some v => rw [overlay, overlayTo_succ_other (.inl h), Option.getD_some]

/-- What is no mapping has nothing at a path of keys. -/
theorem bind_at?_of_leaf {lower : Option Value} {path : List Value}
    (h : lower.bind entries? = none) : lower.bind (at? (k :: path)) = none := by
  cases lower with
  | none => rfl
  | some v => exact at?_cons_eq_none h

/-- The entries of what is laid over, whether there is an end or not. -/
theorem overlay_eq_or (hv : v.entries? = some es) (hw : w.entries? = some fs) :
    overlay (some v) w = w ∨ overlay (some v) w = .dict (merge es fs) := by
  by_cases ends : Ends v w
  · exact .inr (overlay_mappings ends hv hw)
  · rw [overlay, overlayTo_levels_eq_none_iff.2 ends]
    exact .inl rfl

/-- A mapping is one after laying over. -/
theorem exists_entries?_overlay (lower : Option Value) (hw : w.entries? = some fs) :
    ∃ gs, (overlay lower w).entries? = some gs := by
  cases hl : lower.bind entries? with
  | none => exact ⟨fs, by rw [overlay_over_leaf hl, hw]⟩
  | some es =>
      obtain ⟨v, rfl, hv⟩ := Option.bind_eq_some_iff.1 hl
      rcases overlay_eq_or hv hw with h | h
      · exact ⟨fs, by rw [h, hw]⟩
      · exact ⟨_, by rw [h]; rfl⟩

/-! ### Entries -/

@[simp] theorem merge_nil : merge es [] = es := rfl

/-- The keys do at `k` what keys do: a put counts for those that agree with it, which are looked up
alike, and there is one of them at most. -/
structure Clean (k : Value) (fs : List (Value × Value)) : Prop where
  put : ∀ f ∈ fs, ∀ w es,
    lookup k (Value.put f.1 w es) = if f.1.agrees k then some w else lookup k es
  alike : ∀ f ∈ fs, f.1.agrees k = true → ∀ es, lookup f.1 es = lookup k es
  once : fs.Pairwise fun e f => e.1.agrees k = true → f.1.agrees k = false

theorem clean_of_isName (hk : k.IsName) (apart : KeysApart fs) : Clean k fs where
  put f _ w es := by
    by_cases h : f.1 = k
    · rw [if_pos (hk.agrees_iff.2 h), h, lookup_put_self hk]
    · rw [if_neg (mt hk.agrees_iff.1 h), lookup_put_of_ne hk h]
  alike f _ h es := by rw [hk.agrees_iff.1 h]
  once := apart.imp fun {e f} h he => by rwa [hk.agrees_iff.1 he, ← Bool.not_eq_true,
    hk.agrees_left_iff, ← hk.agrees_iff, Bool.not_eq_true] at h

theorem lookup_eq_none (h : ∀ e ∈ es, e.1.agrees k = false) : lookup k es = none := by
  induction es with
  | nil => rfl
  | cons e es ih =>
      obtain ⟨he, hes⟩ := List.forall_mem_cons.1 h
      rw [lookup, if_neg (by rw [he]; exact Bool.false_ne_true), ih hes]

/-- **What a key has in layered mappings**: what it has above, laid over what it has below. -/
theorem lookup_merge_of_clean (clean : Clean k fs) :
    lookup k (merge es fs) =
      match lookup k fs with
      | some w => some (overlay (lookup k es) w)
      | none   => lookup k es := by
  -- The entries to be put are fixed, while what they are put into grows.
  have puts (gs : List (Value × Value)) :
      lookup k (putAll gs (fs.map fun f => (f.1, overlay (lookup f.1 es) f.2))) =
        match lookup k fs with
        | some w => some (overlay (lookup k es) w)
        | none   => lookup k gs := by
    obtain ⟨put, alike, once⟩ := clean
    induction fs generalizing gs with
    | nil => rfl
    | cons f fs ih =>
        obtain ⟨j, w⟩ := f
        obtain ⟨first, once⟩ := List.pairwise_cons.1 once
        obtain ⟨hput, put⟩ := List.forall_mem_cons.1 put
        obtain ⟨same, alike⟩ := List.forall_mem_cons.1 alike
        rw [List.map_cons, putAll, List.foldl_cons]
        refine (ih _ put alike once).trans ?_
        rw [lookup, hput]
        by_cases hj : j.agrees k = true
        · rw [if_pos hj, if_pos hj, lookup_eq_none fun f hf => first f hf hj, same hj]
        · rw [if_neg hj, if_neg hj]
  exact puts es

theorem lookup_merge_of_isName (hk : k.IsName) (apart : KeysApart fs) :
    lookup k (merge es fs) =
      match lookup k fs with
      | some w => some (overlay (lookup k es) w)
      | none   => lookup k es :=
  lookup_merge_of_clean (clean_of_isName hk apart)

/-- **The fields of layered mappings.** -/
theorem field?_merge (h : KeysApart fs) :
    field? n (merge es fs) =
      match field? n fs with
      | some w => some (overlay (field? n es) w)
      | none   => field? n es :=
  lookup_merge_of_isName (.text n) h

/-- Under names only: what holds of the lower entries and of the layered ones holds of all. -/
theorem forall_mem_merge {P : Value → Value → Prop} (names : ∀ f ∈ fs, f.1.IsName)
    (hes : ∀ e ∈ es, P e.1 e.2) (hfs : ∀ f ∈ fs, P f.1 (overlay (lookup f.1 es) f.2)) :
    ∀ e ∈ merge es fs, P e.1 e.2 := by
  have puts (gs : List (Value × Value)) (hgs : ∀ e ∈ gs, P e.1 e.2) :
      ∀ e ∈ putAll gs (fs.map fun f => (f.1, overlay (lookup f.1 es) f.2)), P e.1 e.2 := by
    induction fs generalizing gs with
    | nil => exact hgs
    | cons f fs ih =>
        obtain ⟨hk, names⟩ := List.forall_mem_cons.1 names
        obtain ⟨hf, hfs⟩ := List.forall_mem_cons.1 hfs
        refine ih names hfs _ fun e he => ?_
        rcases mem_put_of_isName hk he with he | rfl
        · exact hgs e he
        · exact hf
  exact puts es hes

/-- A key that no key of a mapping agrees with is put at its end. -/
theorem put_of_apart (h : ∀ e ∈ es, e.1.agrees k = false) : put k w es = es ++ [(k, w)] := by
  induction es with
  | nil => rfl
  | cons e es ih =>
      obtain ⟨hk, hes⟩ := List.forall_mem_cons.1 h
      simp [put, hk, ih hes]

/-- Laid over an empty mapping, a mapping is itself. -/
theorem merge_nil_left (h : KeysApart fs) : merge [] fs = fs := by
  have puts (gs : List (Value × Value)) (h : KeysApart (gs ++ fs)) : putAll gs fs = gs ++ fs := by
    induction fs generalizing gs with
    | nil => exact (List.append_nil gs).symm
    | cons f fs ih =>
        have apart : ∀ e ∈ gs, e.1.agrees f.1 = false := fun e he =>
          (List.pairwise_append.1 h).2.2 e he f List.mem_cons_self
        rw [putAll, List.foldl_cons, put_of_apart apart]
        refine (ih (List.pairwise_cons.1 ‹_›).2 _ ?_).trans (List.append_assoc gs [f] fs)
        rwa [List.append_assoc]
  have same : fs.map (fun f => (f.1, overlay (lookup f.1 []) f.2)) = fs := List.map_id' fs
  rw [merge, same]
  exact puts [] h

/-! ### Checks of layered values

A check of the entries of a mapping is stable if it passes layered entries where it passes both, and
a check of a value likewise. -/

section

open Checked

variable {α β : Type} {check : Value → Checked α} {f : List (Value × Value) → Checked α}
  {g : List (Value × Value) → Checked β}

/-- The check passes the one value laid over the other where it passes both. -/
def Stable (check : Value → Checked α) : Prop :=
  ∀ v w, WellKeyed w → (check v).Passes → (check w).Passes → (check (overlay (some v) w)).Passes

/-- The same for the check of entries. -/
def StableEntries (f : List (Value × Value) → Checked α) : Prop :=
  ∀ es fs, WellKeyed (.dict fs) → (f es).Passes → (f fs).Passes → (f (merge es fs)).Passes

/-- What a check of mere scalars or lists passes is not looked into. -/
theorem stable_of_leaf (h : ∀ w, (check w).Passes → w.entries? = none) : Stable check := by
  intro v w _ _ hw
  rwa [overlay_of_leaf (h w hw)]

theorem StableEntries.record (h : StableEntries f) (name : String) :
    Stable fun v => (Checked.record name v).andThen f := by
  intro v w hk hv hw
  simp only [passes_record] at hv hw ⊢
  obtain ⟨es, hv, hes⟩ := hv
  obtain ⟨fs, hw, hfs⟩ := hw
  rcases overlay_eq_or hv hw with same | laid
  · exact ⟨fs, by rw [same, hw], hfs⟩
  · exact ⟨merge es fs, by rw [laid]; rfl, h es fs (hk.of_entries? hw) hes hfs⟩

theorem StableEntries.map (h : StableEntries f) (r : α → β) :
    StableEntries fun es => (f es).map r := by
  intro es fs hk hes hfs
  rw [passes_map] at *
  exact h es fs hk hes hfs

theorem StableEntries.and (h : StableEntries f) (k : StableEntries g) :
    StableEntries fun es => (f es).and (g es) := by
  intro es fs hd hes hfs
  rw [passes_and] at *
  exact ⟨h es fs hd hes.1 hfs.1, k es fs hd hes.2 hfs.2⟩

/-- A field of layered mappings passes unless it is in both and fails when layered. -/
theorem passes_fieldOr_merge {name : String} {default : α} (hk : KeysApart fs)
    (hes : (fieldOr es name default check).Passes) (hfs : (fieldOr fs name default check).Passes) :
    (fieldOr (merge es fs) name default check).Passes ↔
      ∀ v w, field? name es = some v → field? name fs = some w →
        (check (overlay (some v) w)).Passes := by
  rw [passes_fieldOr] at *
  rw [field?_merge hk]
  cases hw : field? name fs with
  | none => simpa using hes
  | some w =>
      cases hv : field? name es with
      | none => simpa using hfs w hw
      | some v => simp

/-- A field that passes when layered unless what the two values have at some path clashes. -/
theorem passes_fieldOr_merge_iff {ι : Type} {name : String} {default : α} {path : ι → List Value}
    {Clash : Value → Value → Prop} (hv : v.entries? = some es) (hw : w.entries? = some fs)
    (ends : Ends v w) (hk : WellKeyed (.dict fs)) (hes : (fieldOr es name default check).Passes)
    (hfs : (fieldOr fs name default check).Passes)
    (h : ∀ v w, Ends v w → WellKeyed w → (check v).Passes → (check w).Passes →
      ((check (overlay (some v) w)).Passes ↔
        ∀ i e f, at? (path i) v = some e → at? (path i) w = some f → ¬ Clash e f)) :
    (fieldOr (merge es fs) name default check).Passes ↔
      ∀ i e f, at? (.text name :: path i) v = some e → at? (.text name :: path i) w = some f →
        ¬ Clash e f := by
  simp only [passes_fieldOr_merge hk.keysApart hes hfs, forall_at?_cons hv hw]
  rw [passes_fieldOr] at hes hfs
  have each (x y : Value) (hx : field? name es = some x) (hy : field? name fs = some y) :=
    h x y (ends.of_lookup (.text name) hv hw hx hy) (hk.of_field? hy) (hes x hx) (hfs y hy)
  constructor
  · intro hm i x y hx hy
    exact (each x y hx hy).1 (hm x y hx hy) i
  · intro hm x y hx hy
    exact (each x y hx hy).2 fun i => hm i x y hx hy

theorem Stable.fieldOr (h : Stable check) (name : String) (default : α) :
    StableEntries fun es => fieldOr es name default check := by
  intro es fs hk hes hfs
  rw [passes_fieldOr_merge hk.keysApart hes hfs]
  intro v w hv hw
  exact h v w (hk.of_field? hw) (passes_fieldOr.1 hes v hv) (passes_fieldOr.1 hfs w hw)

/-- Layered entries pass unless one is in both mappings and fails when layered. -/
theorem passes_entries_merge (hk : KeysApart fs) (hes : (entries check es).Passes)
    (hfs : (entries check fs).Passes) :
    (entries check (merge es fs)).Passes ↔
      ∀ k v w, lookup k es = some v → lookup k fs = some w →
        (check (overlay (some v) w)).Passes := by
  rw [passes_entries] at *
  have names : ∀ f ∈ fs, f.1.IsName := fun f hf =>
    let ⟨_, hs⟩ := (hfs f hf).1
    isName_of_asText? hs
  have lowerNames : ∀ e ∈ es, e.1.IsName := fun e he =>
    let ⟨_, hs⟩ := (hes e he).1
    isName_of_asText? hs
  constructor
  · intro h k v w hv hw
    have name : k.IsName := isName_of_lookup lowerNames hv
    have hm : lookup k (merge es fs) = some (overlay (some v) w) := by
      rw [lookup_merge_of_isName name hk, hw, hv]
    exact (h _ (mem_of_lookup name hm)).2
  · intro h
    refine forall_mem_merge (P := fun k v => (∃ s, k.asText? = some s) ∧ (check v).Passes)
      names hes fun f hf => ⟨(hfs f hf).1, ?_⟩
    cases hv : lookup f.1 es with
    | none => exact (hfs f hf).2
    | some v =>
        exact h _ v _ hv (hk.lookup_of_mem (fun f hf => (names f hf).isKey) hf)

theorem stable_onlyFields (names : List String) : StableEntries (onlyFields names) := by
  rintro es fs hk ⟨⟨⟩, hes⟩ ⟨⟨⟩, hfs⟩
  rw [onlyFields_eq_valid_iff] at hes hfs
  refine ⟨(), onlyFields_eq_valid_iff.2 ?_⟩
  refine forall_mem_merge (P := fun k _ => ∃ n ∈ names, k = .text n) (fun f hf => ?_) hes
    fun f hf => hfs f hf
  obtain ⟨n, -, hn⟩ := hfs f hf
  exact hn ▸ .text n

end

end TypeCatalog.Layers
