import TypeCatalog.Proofs.Settings.Layers

/-! # Settings — what laying over comes to

A tree of mappings laid over another value is known by what its paths lead to.  A path leads to a
leaf of the upper tree, or to one of the lower value where the upper has nothing and is not cut off
before by a leaf of its own.  So a leaf above hides all that is below it, and a mapping above, even
an empty one, hides a leaf.

* `Clear`: a path that meets nothing but mappings before its end.
* `lookup_merge`, `keys_merge`: one mapping laid over another, by its keys and by their order.
* `at?_overlay_iff`: by induction on a path, the leaves of layered trees.
* `overlay_overlay_self`: by induction on the upper tree, to lay it over twice is to lay it over
  once.
* `merged_merge`: all of this for two mappings.
-/

namespace TypeCatalog

open Value (IsTree KeysApart lookup at?)

namespace Value

variable {k v w : Value} {p : List Value} {fs : List (Value × Value)}

/-! ### Paths -/

/-- Before its end, the path meets nothing but mappings. -/
def Clear (p : List Value) (v : Value) : Prop :=
  ∀ q, q <+: p → q ≠ p → ∀ u, at? q v = some u → ∃ es, u.entries? = some es

theorem not_clear_cons_leaf (h : v.entries? = none) : ¬ Clear (k :: p) v := by
  intro clear
  obtain ⟨es, hv⟩ := clear [] List.nil_prefix (List.cons_ne_nil k p).symm v rfl
  cases h.symm.trans hv

theorem clear_cons_dict_iff :
    Clear (k :: p) (.dict fs) ↔ ∀ w, lookup k fs = some w → Clear p w := by
  constructor
  · intro clear w hw q hq hne u hu
    refine clear (k :: q) (List.cons_prefix_cons.2 ⟨rfl, hq⟩) (mt (List.cons.inj · |>.2) hne) u ?_
    rw [at?_cons_dict, hw]
    exact hu
  · intro clear q hq hne u hu
    cases q with
    | nil =>
        obtain rfl := Option.some.inj hu
        exact ⟨fs, rfl⟩
    | cons j q =>
        obtain ⟨rfl, hqp⟩ := List.cons_prefix_cons.1 hq
        obtain ⟨w, hw, hu⟩ := Option.bind_eq_some_iff.1 (at?_cons_dict ▸ hu)
        exact clear w hw q hqp (mt (congrArg (j :: ·)) hne) u hu

end Value

namespace Layers

open Value (Clear at?_cons_dict at?_cons_eq_none isNew keys_put)

variable {k v w : Value} {p : List Value} {es fs gs : List (Value × Value)}

/-! ### One mapping over another -/

/-- Keys are put and looked up as keys are. -/
theorem clean_of_isKey (keys : ∀ f ∈ fs, f.1.IsKey) (apart : KeysApart fs) : Clean k fs where
  put f hf _ _ := (keys f hf).lookup_put
  alike f hf h _ := (keys f hf).lookup_congr h
  once := by
    refine apart.imp_of_mem fun {e f} he hf h hek => eq_false_of_ne_true fun hfk => ?_
    -- two keys that agree with the same agree with each other
    have same : e.1.agrees f.1 = true := by
      rw [(keys e he).agrees_comm, (keys e he).agrees_congr hek, hfk]
    cases same.symm.trans h

/-- **What a key has** after laying over: what it has above, laid over what it has below. -/
theorem lookup_merge (keys : ∀ f ∈ fs, f.1.IsKey) (apart : KeysApart fs) :
    lookup k (merge es fs) =
      match lookup k fs with
      | some w => some (overlay (lookup k es) w)
      | none   => lookup k es :=
  lookup_merge_of_clean (clean_of_isKey keys apart)

/-- **The order of keys**: those of the lower mapping, and then those that are new. -/
theorem keys_merge (apart : KeysApart fs) :
    Entries.keys (merge es fs) =
      Entries.keys es ++ (Entries.keys fs).filter (isNew (Entries.keys es)) := by
  have puts (gs : List (Value × Value)) :
      Entries.keys (putAll gs (fs.map fun f => (f.1, overlay (lookup f.1 es) f.2))) =
        Entries.keys gs ++ (Entries.keys fs).filter (isNew (Entries.keys gs)) := by
    induction fs generalizing gs with
    | nil => exact (List.append_nil _).symm
    | cons f fs ih =>
        obtain ⟨k, w⟩ := f
        obtain ⟨first, apart⟩ := List.pairwise_cons.1 apart
        refine (ih apart _).trans ?_
        change Entries.keys (Value.put k _ gs) ++
            (Entries.keys fs).filter (isNew (Entries.keys (Value.put k _ gs))) =
          Entries.keys gs ++ (k :: Entries.keys fs).filter (isNew (Entries.keys gs))
        rw [keys_put]
        by_cases hk : isNew (Entries.keys gs) k = true
        · -- the key is new, but as keys are apart, none of those after it is the less new for it
          have others : (Entries.keys fs).filter (isNew (Entries.keys gs ++ [k])) =
              (Entries.keys fs).filter (isNew (Entries.keys gs)) := by
            refine List.filter_congr fun j hj => ?_
            obtain ⟨f, hf, rfl⟩ := List.mem_map.1 hj
            simp [isNew, first f hf]
          rw [if_pos hk, others, List.filter_cons_of_pos hk, List.append_assoc,
            List.singleton_append]
        · rw [if_neg hk, List.append_nil, List.filter_cons_of_neg hk]
  exact puts es

/-- Entries that are found already can be laid over without a change. -/
theorem merge_eq_self
    (h : ∀ f ∈ fs, ∃ u, lookup f.1 gs = some u ∧ overlay (some u) f.2 = u) : merge gs fs = gs := by
  have puts (es : List (Value × Value))
      (h : ∀ f ∈ fs, ∃ u, lookup f.1 gs = some u ∧ lookup f.1 es = some u ∧
        overlay (some u) f.2 = u) :
      putAll es (fs.map fun f => (f.1, overlay (lookup f.1 gs) f.2)) = es := by
    induction fs generalizing es with
    | nil => rfl
    | cons f fs ih =>
        obtain ⟨⟨u, hu, hes, same⟩, h⟩ := List.forall_mem_cons.1 h
        change putAll (Value.put f.1 (overlay (lookup f.1 gs) f.2) es) _ = es
        rw [hu, same, Value.put_of_lookup hes]
        exact ih (fun f hf => let ⟨u, hu, _, same⟩ := h f hf; ⟨u, hu, same⟩) _ h
  exact puts gs fun f hf => let ⟨u, hu, same⟩ := h f hf; ⟨u, hu, hu, same⟩

/-! ### One tree over another -/

theorem isTree_of_at? {u : Value} (hw : IsTree w) (h : at? p w = some u) : IsTree u := by
  induction p generalizing w with
  | nil =>
      obtain rfl := Option.some.inj h
      exact hw
  | cons k p ih =>
      cases hw with
      | leaf leaf => cases (at?_cons_eq_none leaf).symm.trans h
      | dict keys apart values =>
          obtain ⟨w, hw, hu⟩ := Option.bind_eq_some_iff.1 (at?_cons_dict ▸ h)
          exact ih (.of_lookup values hw) hu

/-- A tree over a value: it takes its place, or both are mappings with the layered entries. -/
theorem overlay_tree (lower : Option Value) (hw : IsTree (.dict fs)) :
    lower.bind Value.entries? = none ∧ overlay lower (.dict fs) = .dict fs ∨
      ∃ v es, lower = some v ∧ v.entries? = some es ∧
        overlay lower (.dict fs) = .dict (merge es fs) := by
  cases h : lower.bind Value.entries? with
  | none => exact .inl ⟨rfl, overlay_over_leaf h⟩
  | some es =>
      obtain ⟨v, rfl, hv⟩ := Option.bind_eq_some_iff.1 h
      exact .inr ⟨v, es, rfl, hv, overlay_mappings (ends_of_isTree hw) hv rfl⟩

/-- Where the upper tree leads to something, this is laid over what the lower one has there. -/
theorem at?_overlay_of_some {lower : Option Value} {u : Value} (hw : IsTree w)
    (h : at? p w = some u) :
    at? p (overlay lower w) = some (overlay (lower.bind (at? p)) u) := by
  induction p generalizing lower w with
  | nil =>
      obtain rfl := Option.some.inj h
      cases lower <;> rfl
  | cons k p ih =>
      cases hw with
      | leaf leaf => cases (at?_cons_eq_none leaf).symm.trans h
      | @dict fs keys apart values =>
          rcases overlay_tree lower (.dict keys apart values) with
            ⟨leaf, same⟩ | ⟨v, es, rfl, hv, laid⟩
          · rw [same, bind_at?_of_leaf leaf, overlay_none, h]
          · obtain ⟨w, hw, hu⟩ := Option.bind_eq_some_iff.1 (at?_cons_dict ▸ h)
            rw [laid, at?_cons_dict, lookup_merge keys apart, hw, Option.bind_some,
              Option.bind_some, Value.at?_cons_of_entries? hv]
            exact ih (.of_lookup values hw) hu

/-- **The leaves of layered trees.** -/
theorem at?_overlay_iff {lower : Option Value} (hw : IsTree w) (leaf : v.entries? = none) :
    at? p (overlay lower w) = some v ↔
      at? p w = some v ∨ lower.bind (at? p) = some v ∧ at? p w = none ∧ Clear p w := by
  induction p generalizing lower w with
  | nil =>
      have same : overlay lower w = v ↔ w = v := by
        cases hw with
        | leaf h => rw [overlay_of_leaf h]
        | @dict fs =>
            obtain ⟨gs, hg⟩ := exists_entries?_overlay lower (w := .dict fs) rfl
            refine iff_of_false ?_ ?_
            · intro h
              cases (h ▸ hg).symm.trans leaf
            · rintro rfl
              cases leaf
      simp [at?, same]
  | cons k p ih =>
      cases hw with
      | leaf h =>
          rw [overlay_of_leaf h]
          exact (or_iff_left fun ⟨_, _, clear⟩ => Value.not_clear_cons_leaf h clear).symm
      | @dict fs keys apart values =>
          rcases overlay_tree lower (.dict keys apart values) with
            ⟨leaf, same⟩ | ⟨v, es, rfl, hv, laid⟩
          · rw [same, bind_at?_of_leaf leaf]
            simp
          · rw [laid, at?_cons_dict, at?_cons_dict, lookup_merge keys apart,
              Value.clear_cons_dict_iff, Option.bind_some, Value.at?_cons_of_entries? hv]
            cases hk : lookup k fs with
            | none => simp
            | some w => simpa using ih (.of_lookup values hk)

/-- To lay a tree over twice is to lay it over once. -/
theorem overlay_overlay_self (hw : IsTree w) (lower : Option Value) :
    overlay (some (overlay lower w)) w = overlay lower w := by
  induction hw generalizing lower with
  | leaf leaf => rw [overlay_of_leaf leaf, overlay_of_leaf leaf]
  | @dict fs keys apart values ih =>
      have ends {v : Value} : Ends v (.dict fs) := ends_of_isTree (.dict keys apart values)
      rcases overlay_tree lower (.dict keys apart values) with
        ⟨leaf, same⟩ | ⟨v, es, rfl, hv, laid⟩
      · rw [same, overlay_dict ends]
        refine congrArg _ (merge_eq_self fun f hf => ⟨f.2, apart.lookup_of_mem keys hf, ?_⟩)
        simpa using ih f hf none
      · rw [laid, overlay_dict ends]
        refine congrArg _ (merge_eq_self fun f hf => ⟨overlay (lookup f.1 es) f.2, ?_, ih f hf _⟩)
        rw [lookup_merge keys apart, apart.lookup_of_mem keys hf]

/-! ### Two mappings -/

/-- The mapping `m` is what laying the tree `o` over `b` has to come to. -/
structure Merged (b o m : List (Value × Value)) : Prop where
  /-- A path leads to a leaf above, or to one below that nothing above hides. -/
  leaves : ∀ p v, v.entries? = none → (at? p (.dict m) = some v ↔
    at? p (.dict o) = some v ∨
      at? p (.dict b) = some v ∧ at? p (.dict o) = none ∧ Clear p (.dict o))
  /-- Two mappings at the end of a path become one, with the keys below first. -/
  keys : ∀ p es fs, (at? p (.dict b)).bind Value.entries? = some es →
    at? p (.dict o) = some (.dict fs) →
      ∃ gs, at? p (.dict m) = some (.dict gs) ∧
        Entries.keys gs = Entries.keys es ++ (Entries.keys fs).filter (isNew (Entries.keys es))

/-- **Laying a tree of mappings over a mapping** comes to its end, and gives the leaves and the keys
that it has to; an empty mapping on either side changes nothing, and neither does laying the tree
over once more.  The tree is finite; the mapping below may hold itself. -/
theorem merged_merge {b o : List (Value × Value)} (ho : IsTree (.dict o)) :
    ∃ m, merge? b o = some m ∧ Merged b o m ∧ merge? b [] = some b ∧ merge? [] o = some o ∧
      merge? m o = some m := by
  have ends {v : Value} : Ends v (.dict o) := ends_of_isTree ho
  have laid : overlay (some (.dict b)) (.dict o) = .dict (merge b o) := overlay_dict ends
  refine ⟨merge b o, merge?_eq_some ends, ⟨fun p v leaf => ?_, fun p es fs hes hfs => ?_⟩,
    ?_, ?_, ?_⟩
  · rw [← laid]
    exact at?_overlay_iff ho leaf
  · obtain ⟨u, hu, hes⟩ := Option.bind_eq_some_iff.1 hes
    have tree := isTree_of_at? ho hfs
    refine ⟨merge es fs, ?_, keys_merge tree.apart⟩
    rw [← laid, at?_overlay_of_some ho hfs, Option.bind_some, hu,
      overlay_mappings (ends_of_isTree tree) hes rfl]
  · have nothing : IsTree (.dict []) := .dict (List.forall_mem_nil _) .nil (List.forall_mem_nil _)
    rw [merge?_eq_some (ends_of_isTree nothing), merge_nil]
  · rw [merge?_eq_some ends, merge_nil_left ho.apart]
  · have again := overlay_overlay_self ho (some (.dict b))
    rw [laid, overlay_dict ends] at again
    rw [merge?_eq_some ends, Value.dict.inj again]

/-- A switch and a whole number that agree are one key.  A mapping takes the place of a text, though
it is empty, and a number that of an empty mapping. -/
theorem merged_one_and_true :
    let b : List (Value × Value) := [(.int 1, .ofFields [("x", .int 1), ("y", .dict [])]),
      (.text "s", .text "t")]
    let o : List (Value × Value) := [(.text "s", .dict []),
      (.bool true, .ofFields [("z", .null), ("y", .int 7)])]
    IsTree (.dict o) ∧
      merge? b o = some [(.int 1, .ofFields [("x", .int 1), ("y", .int 7), ("z", .null)]),
        (.text "s", .dict [])] ∧
      ∃ m, merge? b o = some m ∧ Merged b o m ∧ merge? b [] = some b ∧ merge? [] o = some o ∧
        merge? m o = some m := by
  intro b o
  have inner : IsTree (.ofFields [("z", .null), ("y", .int 7)]) :=
    .ofFields (by decide) (by simpa using ⟨.leaf rfl, .leaf rfl⟩)
  have empty : IsTree (.ofFields []) := .ofFields .nil (List.forall_mem_nil _)
  have apart : (Value.text "s").agrees (.bool true) = false := by decide +kernel
  have tree : IsTree (.dict o) :=
    .dict (by simp [o, Value.IsKey, Value.datum]) (by simpa [o, KeysApart] using apart)
      (by simpa [o] using ⟨empty, inner⟩)
  have result : merge? b o = some [(.int 1, .ofFields [("x", .int 1), ("y", .int 7),
      ("z", .null)]), (.text "s", .dict [])] := by
    with_unfolding_all rfl
  exact ⟨tree, result, merged_merge tree⟩

end Layers

end TypeCatalog
