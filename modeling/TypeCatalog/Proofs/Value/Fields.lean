import TypeCatalog.Ordered
import TypeCatalog.Value.Opened

/-! # Values — fields

The entries of a mapping are looked up by agreement, which for a text as key is equality, and so it
is for bytes, which may stand for a text.  So names behave as the keys of an ordinary map, whatever
other keys stand between them.

* `IsName`: a text or bytes; nothing agrees with a name but itself.
* `lookup_put_self`, `lookup_put_of_ne`: what a put does to the look-up of a name.
* `at?`: the value at the end of a path of keys.
* `WellKeyed`: no two keys of a mapping agree, at whatever depth the mapping is.
* `wellKeyed_value`: so it is with the values of a table if it is so in each of its parts.
-/

namespace TypeCatalog.Value

/-- What can be the name of a field: a text, or bytes. -/
inductive IsName : Value → Prop where
  | text (s : String) : IsName (.text s)
  | bytes (bs : List UInt8) : IsName (.bytes bs)

variable {n : String} {j k v w : Value} {es : List (Value × Value)}

/-- What agrees with a name is that name. -/
theorem IsName.agrees_iff (hk : k.IsName) : j.agrees k = true ↔ j = k := by
  cases hk <;> cases j <;> simp [agrees, scalarAgrees, asInt?]

/-- A name agrees with itself only. -/
theorem IsName.agrees_left_iff (hk : k.IsName) : k.agrees j = true ↔ j = k := by
  cases hk <;> cases j <;> simp [agrees, scalarAgrees, asInt?] <;> exact eq_comm

theorem isName_of_asText? {s : String} (h : k.asText? = some s) : k.IsName := by
  cases k with
  | text s => exact .text s
  | bytes bs => exact .bytes bs
  | _ => cases h

@[simp] theorem entries?_dict : (dict es).entries? = some es := rfl

/-- A name is no mapping. -/
theorem IsName.entries?_eq_none (hk : k.IsName) : k.entries? = none := by
  cases hk <;> rfl

theorem isName_of_text? {s : String} (h : k.text? = some s) : k.IsName := by
  cases k with
  | text s => exact .text s
  | _ => cases h

theorem text_agrees_iff {s : String} : (text s).agrees k = true ↔ k = .text s :=
  (IsName.text s).agrees_left_iff

theorem text_agrees_eq_false {s t : String} (h : s ≠ t) : (text s).agrees (.text t) = false :=
  eq_false_of_ne_true fun same => h (Value.text.inj (text_agrees_iff.1 same)).symm

/-! ### Names -/

theorem lookup_cons_self (hk : k.IsName) : lookup k ((k, v) :: es) = some v := by
  rw [lookup, if_pos (hk.agrees_iff.2 rfl)]

theorem lookup_cons_of_ne (hk : k.IsName) (h : j ≠ k) :
    lookup k ((j, v) :: es) = lookup k es := by
  rw [lookup, if_neg (mt hk.agrees_iff.1 h)]

theorem lookup_singleton (hj : j.IsName) : lookup k [(j, v)] = some w ↔ j = k ∧ v = w := by
  rw [lookup]
  split
  · rename_i same
    simp [hj.agrees_left_iff.1 same]
  · rename_i other
    exact iff_of_false nofun fun h => other (hj.agrees_left_iff.2 h.1.symm)

theorem lookup_append {fs : List (Value × Value)} :
    lookup k (es ++ fs) = (lookup k es).or (lookup k fs) := by
  induction es with
  | nil => rfl
  | cons e es ih =>
      obtain ⟨i, w⟩ := e
      rw [List.cons_append, lookup, ih, lookup]
      split <;> rfl

/-- What is found is the value of an entry. -/
theorem exists_mem_of_lookup (h : lookup k es = some v) : ∃ e ∈ es, e.2 = v := by
  induction es with
  | nil => cases h
  | cons e es ih =>
      obtain ⟨i, w⟩ := e
      rw [lookup] at h
      split at h
      · exact ⟨_, List.mem_cons_self, Option.some.inj h⟩
      · obtain ⟨f, hf, hv⟩ := ih h
        exact ⟨f, List.mem_cons_of_mem _ hf, hv⟩

theorem mem_of_lookup (hk : k.IsName) (h : lookup k es = some v) : (k, v) ∈ es := by
  induction es with
  | nil => cases h
  | cons e es ih =>
      obtain ⟨j, w⟩ := e
      by_cases hj : j = k
      · subst hj
        rw [lookup_cons_self hk] at h
        obtain rfl := Option.some.inj h
        exact List.mem_cons_self
      · rw [lookup_cons_of_ne hk hj] at h
        exact List.mem_cons_of_mem _ (ih h)

/-- What is found among names is looked up by one. -/
theorem isName_of_lookup (names : ∀ e ∈ es, e.1.IsName) (h : lookup k es = some v) :
    k.IsName := by
  induction es with
  | nil => cases h
  | cons e es ih =>
      obtain ⟨j, w⟩ := e
      obtain ⟨hj, names⟩ := List.forall_mem_cons.1 names
      rw [lookup] at h
      split at h
      · rename_i same
        exact hj.agrees_left_iff.1 same ▸ hj
      · exact ih names h

theorem lookup_put_self (hk : k.IsName) : lookup k (put k v es) = some v := by
  induction es with
  | nil => exact lookup_cons_self hk
  | cons e es ih =>
      obtain ⟨j, w⟩ := e
      by_cases hj : j = k
      · rw [put, if_pos (hk.agrees_iff.2 hj), hj, lookup_cons_self hk]
      · rw [put, if_neg (mt hk.agrees_iff.1 hj), lookup_cons_of_ne hk hj, ih]

/-- A put at another key, which need not be a name, leaves what a name has as it is. -/
theorem lookup_put_of_ne (hk : k.IsName) (h : j ≠ k) :
    lookup k (put j v es) = lookup k es := by
  induction es with
  | nil => rw [put, lookup_cons_of_ne hk h]
  | cons e es ih =>
      obtain ⟨i, w⟩ := e
      rw [put]
      split
      · rename_i hij
        have hi : i ≠ k := fun hi => h (hk.agrees_left_iff.1 (hi ▸ hij))
        rw [lookup_cons_of_ne hk hi, lookup_cons_of_ne hk hi]
      · by_cases hi : i = k
        · subst hi
          rw [lookup_cons_self hk, lookup_cons_self hk]
        · rw [lookup_cons_of_ne hk hi, lookup_cons_of_ne hk hi, ih]

/-- After a put there is nothing new but the value, at its key or at one that agrees with it. -/
theorem mem_put {e : Value × Value} (h : e ∈ put k v es) :
    e ∈ es ∨ e.2 = v ∧ (e.1 = k ∨ ∃ f ∈ es, f.1 = e.1 ∧ f.1.agrees k = true) := by
  induction es with
  | nil =>
      obtain rfl := List.mem_singleton.1 h
      exact .inr ⟨rfl, .inl rfl⟩
  | cons f es ih =>
      obtain ⟨j, w⟩ := f
      rw [put] at h
      split at h
      · rename_i hj
        rcases List.mem_cons.1 h with rfl | h
        · exact .inr ⟨rfl, .inr ⟨_, List.mem_cons_self, rfl, hj⟩⟩
        · exact .inl (List.mem_cons_of_mem _ h)
      · rcases List.mem_cons.1 h with rfl | h
        · exact .inl List.mem_cons_self
        · refine (ih h).imp (List.mem_cons_of_mem _) (And.imp_right (Or.imp_right ?_))
          rintro ⟨f, hf, h⟩
          exact ⟨f, List.mem_cons_of_mem _ hf, h⟩

/-- A put at a name puts nothing else. -/
theorem mem_put_of_isName {e : Value × Value} (hk : k.IsName) (h : e ∈ put k v es) :
    e ∈ es ∨ e = (k, v) := by
  refine (mem_put h).imp_right ?_
  rintro ⟨rfl, he | ⟨f, -, hf, hj⟩⟩
  · exact Prod.ext he rfl
  · exact Prod.ext (hf ▸ hk.agrees_iff.1 hj) rfl

/-! ### Fields -/

@[simp] theorem field?_nil : field? n [] = none := rfl

@[simp] theorem field?_cons_self : field? n ((.text n, v) :: es) = some v :=
  lookup_cons_self (.text n)

theorem field?_cons_of_ne (h : k ≠ .text n) : field? n ((k, v) :: es) = field? n es :=
  lookup_cons_of_ne (.text n) h

theorem field?_singleton {m : String} :
    field? n [(.text m, v)] = some w ↔ m = n ∧ v = w := by
  rw [field?, lookup_singleton (.text m), Value.text.injEq]

theorem field?_append {fs : List (Value × Value)} :
    field? n (es ++ fs) = (field? n es).or (field? n fs) :=
  lookup_append

theorem mem_of_field? (h : field? n es = some v) : (.text n, v) ∈ es :=
  mem_of_lookup (.text n) h

/-! ### Paths -/

/-- The value at the end of a path of keys. -/
def at? : (path : List Value) → Value → Option Value
  | [],        v => some v
  | k :: path, v => v.entries?.bind fun es => (lookup k es).bind (at? path)

theorem at?_nil : at? [] = some := rfl

theorem at?_cons {path : List Value} :
    at? (k :: path) v = v.entries?.bind fun es => (lookup k es).bind (at? path) := rfl

theorem at?_cons_of_entries? {path : List Value} (h : v.entries? = some es) :
    at? (k :: path) v = (lookup k es).bind (at? path) := by
  rw [at?_cons, h, Option.bind_some]

theorem at?_cons_dict {path : List Value} :
    at? (k :: path) (.dict es) = (lookup k es).bind (at? path) := rfl

theorem at?_singleton : at? [k] (.dict es) = lookup k es := by
  rw [at?_cons_dict, at?_nil, Option.bind_fun_some]

theorem at?_text : at? [.text n] (.dict es) = field? n es := at?_singleton

theorem at?_cons_eq_none {path : List Value} (h : v.entries? = none) :
    at? (k :: path) v = none := by
  rw [at?_cons, h, Option.bind_none]

/-- What two mappings have at a path they have in their entries at the front of the path. -/
theorem forall_at?_cons {path : List Value} {fs : List (Value × Value)}
    {R : Value → Value → Prop} (hv : v.entries? = some es) (hw : w.entries? = some fs) :
    (∀ x y, at? (k :: path) v = some x → at? (k :: path) w = some y → R x y) ↔
      ∀ a b, lookup k es = some a → lookup k fs = some b →
        ∀ x y, at? path a = some x → at? path b = some y → R x y := by
  simp only [at?_cons_of_entries? hv, at?_cons_of_entries? hw, Option.bind_eq_some_iff]
  constructor
  · intro h a b ha hb x y hx hy
    exact h x y ⟨a, ha, hx⟩ ⟨b, hb, hy⟩
  · rintro h x y ⟨a, ha, hx⟩ ⟨b, hb, hy⟩
    exact h a b ha hb x y hx hy

/-! ### Keys -/

/-- No two keys agree. -/
def KeysApart (es : List (Value × Value)) : Prop :=
  es.Pairwise fun e f => e.1.agrees f.1 = false

theorem keysApart_ofFields {fields : Entries String Value} (nodup : (Entries.keys fields).Nodup) :
    KeysApart (fields.map fun f => (.text f.1, f.2)) :=
  List.pairwise_map.2 ((List.pairwise_map.1 nodup).imp text_agrees_eq_false)

/-- No two keys of a layer agree. -/
def LayerApart {α : Type} : Layer α → Prop
  | .dict es => es.Pairwise fun e f => e.1.toValue.agrees f.1.toValue = false
  | _        => True

theorem layerApart_map {α β : Type} {f : α → β} {l : Layer α} (h : LayerApart l) :
    LayerApart (l.map f) := by
  cases l with
  | dict es => exact List.pairwise_map.2 h
  | _ => trivial

/-- No two keys of a mapping agree, at whatever depth in the value. -/
inductive WellKeyed : Value → Prop where
  | dict {es : List (Value × Value)} (keys : KeysApart es) (values : ∀ e ∈ es, WellKeyed e.2) :
      WellKeyed (.dict es)
  | list {xs : List Value} (items : ∀ x ∈ xs, WellKeyed x) : WellKeyed (.list xs)
  | knot {k : Knot} (layers : ∀ i, LayerApart (k.cells.layer i)) : WellKeyed (.knot k)
  | other {v : Value} (notDict : ∀ es, v ≠ .dict es) (notList : ∀ xs, v ≠ .list xs)
      (notKnot : ∀ k, v ≠ .knot k) : WellKeyed v

theorem WellKeyed.text (s : String) : WellKeyed (.text s) := .other nofun nofun nofun

theorem WellKeyed.bool (b : Bool) : WellKeyed (.bool b) := .other nofun nofun nofun

theorem WellKeyed.singleton (h : WellKeyed v) : WellKeyed (.dict [(k, v)]) :=
  .dict (List.pairwise_singleton _ _) (List.forall_mem_singleton.2 h)

/-- A put leaves keys apart. -/
theorem KeysApart.put (h : KeysApart es) (k v : Value) : KeysApart (put k v es) := by
  induction es with
  | nil => exact List.pairwise_singleton _ _
  | cons e es ih =>
      obtain ⟨j, w⟩ := e
      obtain ⟨hj, hes⟩ := List.pairwise_cons.1 h
      rw [Value.put]
      split
      · exact List.pairwise_cons.2 ⟨hj, hes⟩
      · rename_i hjk
        refine List.pairwise_cons.2 ⟨fun e he => ?_, ih hes⟩
        rcases mem_put he with he | ⟨-, rfl | ⟨f, hf, hfe, -⟩⟩
        · exact hj e he
        · exact eq_false_of_ne_true hjk
        · exact hfe ▸ hj f hf

theorem WellKeyed.keysApart (h : WellKeyed (.dict es)) : KeysApart es := by
  cases h with
  | dict keys values => exact keys
  | other notDict => exact absurd rfl (notDict es)

theorem WellKeyed.of_mem {e : Value × Value} (h : WellKeyed (.dict es)) (he : e ∈ es) :
    WellKeyed e.2 := by
  cases h with
  | dict keys values => exact values e he
  | other notDict => exact absurd rfl (notDict es)

theorem WellKeyed.of_lookup (h : WellKeyed (.dict es)) (hv : lookup k es = some v) :
    v.WellKeyed := by
  obtain ⟨e, he, rfl⟩ := exists_mem_of_lookup hv
  exact h.of_mem he

theorem WellKeyed.of_field? (h : WellKeyed (.dict es)) (hv : field? n es = some v) :
    v.WellKeyed :=
  h.of_lookup hv

theorem WellKeyed.nil : WellKeyed (.dict []) := .dict .nil nofun

/-- What is put has to be well keyed itself. -/
theorem WellKeyed.put (h : WellKeyed (.dict es)) (hv : WellKeyed v) :
    WellKeyed (.dict (put k v es)) := by
  refine .dict (h.keysApart.put k v) fun e he => ?_
  rcases mem_put he with he | ⟨rfl, -⟩
  · exact h.of_mem he
  · exact hv

theorem wellKeyed_scalar (s : Scalar) : s.toValue.WellKeyed := by
  cases s <;> exact .other nofun nofun nofun

/-- A layer of well-keyed values is one where its own keys are apart. -/
theorem wellKeyed_toValue {l : Layer Value} (keys : LayerApart l)
    (parts : ∀ x ∈ l.parts, x.WellKeyed) : l.toValue.WellKeyed := by
  cases l with
  | scalar s => exact wellKeyed_scalar s
  | set ss => exact .other nofun nofun nofun
  | list xs => exact .list parts
  | pairs ps => exact .list (List.forall_mem_map.2 fun p _ => .other nofun nofun nofun)
  | dict es => exact .dict (List.pairwise_map.2 keys) (List.forall_mem_map.2 fun e he =>
      parts e.2 (List.mem_map_of_mem he))

theorem parts_map {α β : Type} (f : α → β) (l : Layer α) : (l.map f).parts = l.parts.map f := by
  cases l with
  | pairs ps => simp [Layer.map, Layer.parts, List.flatMap_map, List.map_flatMap]
  | dict es => simp [Layer.map, Layer.parts]
  | _ => rfl

theorem wellKeyed_value {cells : Cells} (layers : ∀ i, LayerApart (cells.layer i)) (i : Nat) :
    (cells.value i).WellKeyed := by
  cases h : cells.ends cells.depth i with
  | false => rw [Cells.value, dif_pos h]; exact .knot layers
  | true =>
      rw [Cells.value_eq_tree h]
      clear h
      generalize cells.depth = d
      induction d generalizing i with
      | zero => exact wellKeyed_scalar .null
      | succ d ih =>
          refine wellKeyed_toValue (layerApart_map (layers i)) ?_
          rw [parts_map]
          exact List.forall_mem_map.2 fun j _ => ih j

/-- A well-keyed value is one when it is opened. -/
theorem WellKeyed.opened (h : v.WellKeyed) : v.opened.WellKeyed := by
  cases h with
  | knot layers =>
      refine wellKeyed_toValue (layerApart_map (layers _)) ?_
      rw [parts_map]
      exact List.forall_mem_map.2 fun j _ => wellKeyed_value layers j
  | dict keys values => exact .dict keys values
  | list items => exact .list items
  | other notDict notList notKnot =>
      cases v with
      | knot k => exact absurd rfl (notKnot k)
      | _ => exact .other notDict notList notKnot

theorem WellKeyed.of_entries? (h : v.WellKeyed) (hv : v.entries? = some es) :
    WellKeyed (.dict es) := by
  rw [entries?] at hv
  split at hv
  · rename_i fs hd
    obtain rfl := Option.some.inj hv
    exact hd ▸ h.opened
  · cases hv

/-- What stands at a path of a well-keyed value is well keyed. -/
theorem WellKeyed.of_at? {path : List Value} (h : v.WellKeyed) (hw : at? path v = some w) :
    w.WellKeyed := by
  induction path generalizing v with
  | nil => exact Option.some.inj hw ▸ h
  | cons k path ih =>
      obtain ⟨es, hes, hw⟩ := Option.bind_eq_some_iff.1 hw
      obtain ⟨u, hu, hw⟩ := Option.bind_eq_some_iff.1 hw
      exact ih ((h.of_entries? hes).of_lookup hu) hw

end TypeCatalog.Value
