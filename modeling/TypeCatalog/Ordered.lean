/-! # Ordered maps

A map whose keys keep the order in which they first came; a key put again keeps its place and takes
the new value.  `Entries` holds the operations on plain lists of pairs, for data that is nested in
other data; `OrderedMap` carries the proof that no key stands twice.

* `Entries.get?_put`: what a put does to every look-up.
* `OrderedMap.get?_insert`, `OrderedMap.keys_insert`: the same through the map.
-/

namespace TypeCatalog

/-! ### Lists of pairs -/

/-- A list of keys with their values. -/
abbrev Entries (κ α : Type) : Type := List (κ × α)

namespace Entries

variable {κ α : Type} [DecidableEq κ]

def keys (es : Entries κ α) : List κ := es.map Prod.fst

/-- The value of the first entry with the key. -/
def get? (k : κ) : Entries κ α → Option α
  | []           => none
  | (j, a) :: es => if j = k then some a else get? k es

/-- Replaces the value at `k` in place, or adds it at the end. -/
def put (k : κ) (a : α) : Entries κ α → Entries κ α
  | []           => [(k, a)]
  | (j, b) :: es => if j = k then (k, a) :: es else (j, b) :: put k a es

/-- Puts the entries of `new` one after the other. -/
def putAll (es new : Entries κ α) : Entries κ α := new.foldl (fun acc e => put e.1 e.2 acc) es

/-- One entry per key: the place of its first and the value of its last occurrence. -/
def ofList (es : Entries κ α) : Entries κ α := putAll [] es

theorem get?_put (es : Entries κ α) (k j : κ) (a : α) :
    get? j (put k a es) = if k = j then some a else get? j es := by
  induction es with
  | nil => rfl
  | cons e es ih =>
      obtain ⟨i, b⟩ := e
      unfold put
      by_cases hik : i = k
      · subst hik
        by_cases hij : i = j <;> simp [get?, hij]
      · by_cases hij : i = j
        · subst hij
          simp [get?, hik, Ne.symm hik]
        · simp [get?, hik, hij, ih]

theorem keys_put (es : Entries κ α) (k : κ) (a : α) :
    keys (put k a es) = if k ∈ keys es then keys es else keys es ++ [k] := by
  induction es with
  | nil => rfl
  | cons e es ih =>
      obtain ⟨i, b⟩ := e
      unfold put
      by_cases hik : i = k
      · simp [keys, hik]
      · have hki : ¬ k = i := fun h => hik h.symm
        simp only [keys] at ih
        by_cases hm : k ∈ es.map Prod.fst <;> simp_all [keys]

theorem nodup_put {es : Entries κ α} (h : (keys es).Nodup) (k : κ) (a : α) :
    (keys (put k a es)).Nodup := by
  rw [keys_put]
  split
  · exact h
  · rename_i hk
    refine List.nodup_append.2 ⟨h, by simp, ?_⟩
    intro x hx y hy hxy
    simp only [List.mem_singleton] at hy
    subst hy
    subst hxy
    exact hk hx

theorem nodup_putAll {es : Entries κ α} (h : (keys es).Nodup) (new : Entries κ α) :
    (keys (putAll es new)).Nodup := by
  induction new generalizing es with
  | nil => exact h
  | cons e new ih => exact ih (nodup_put h e.1 e.2)

theorem get?_eq_none_iff (es : Entries κ α) (k : κ) : get? k es = none ↔ k ∉ keys es := by
  induction es with
  | nil => simp [get?, keys]
  | cons e es ih =>
      obtain ⟨i, b⟩ := e
      by_cases hik : i = k
      · simp [get?, keys, hik]
      · have hki : ¬ k = i := fun h => hik h.symm
        simp_all [get?, keys]

theorem mem_of_get? {es : Entries κ α} {k : κ} {a : α} (h : get? k es = some a) : (k, a) ∈ es := by
  induction es with
  | nil => cases h
  | cons e es ih =>
      obtain ⟨i, b⟩ := e
      unfold get? at h
      split at h
      · rename_i hik
        obtain rfl := Option.some.inj h
        simp [hik]
      · exact List.mem_cons_of_mem _ (ih h)

end Entries

/-! ### Maps -/

/-- Entries no two of which have the same key. -/
structure OrderedMap (κ α : Type) where
  entries : Entries κ α
  nodup : (Entries.keys entries).Nodup

namespace OrderedMap

variable {κ α : Type} [DecidableEq κ]

def empty : OrderedMap κ α := ⟨[], List.nodup_nil⟩

def keys (m : OrderedMap κ α) : List κ := Entries.keys m.entries

def values (m : OrderedMap κ α) : List α := m.entries.map Prod.snd

def size (m : OrderedMap κ α) : Nat := m.entries.length

def get? (m : OrderedMap κ α) (k : κ) : Option α := Entries.get? k m.entries

def contains (m : OrderedMap κ α) (k : κ) : Bool := (m.get? k).isSome

def insert (m : OrderedMap κ α) (k : κ) (a : α) : OrderedMap κ α :=
  ⟨Entries.put k a m.entries, Entries.nodup_put m.nodup k a⟩

/-- `m` with the entries of `new` put over it, in their order. -/
def insertAll (m : OrderedMap κ α) (new : Entries κ α) : OrderedMap κ α :=
  ⟨Entries.putAll m.entries new, Entries.nodup_putAll m.nodup new⟩

def ofList (es : Entries κ α) : OrderedMap κ α := insertAll empty es

@[simp] theorem get?_empty (k : κ) : (empty : OrderedMap κ α).get? k = none := rfl

theorem get?_insert (m : OrderedMap κ α) (k j : κ) (a : α) :
    (m.insert k a).get? j = if k = j then some a else m.get? j :=
  Entries.get?_put m.entries k j a

theorem keys_insert (m : OrderedMap κ α) (k : κ) (a : α) :
    (m.insert k a).keys = if k ∈ m.keys then m.keys else m.keys ++ [k] :=
  Entries.keys_put m.entries k a

theorem insertAll_cons (m : OrderedMap κ α) (e : κ × α) (es : Entries κ α) :
    m.insertAll (e :: es) = (m.insert e.1 e.2).insertAll es := rfl

end OrderedMap

end TypeCatalog
