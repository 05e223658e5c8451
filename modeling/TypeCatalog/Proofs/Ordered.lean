import Mathlib.Data.List.Basic
import Mathlib.Data.List.Induction
import TypeCatalog.Ordered

/-! # Ordered maps — entries

What stands in a map after entries have been put over it, and how a look-up finds an entry.

A map is seen in two ways: by the order of its keys, and by what is found under each.  The two say
all about it, so that an equation between maps is one between orders and one between look-ups.

* `mem_putAll`: an entry was there before or has been put.
* `OrderedMap.get?_eq_some_iff`: a look-up gives the value of the entry with the key.
* `OrderedMap.keys_insertAll`, `OrderedMap.get?_insertAll`: one map put over another, in both ways.
* `OrderedMap.ext_keys`: maps that are the same in both ways are the same.
* `OrderedMap.insertAll_insertAll`: layers compose.
-/

namespace TypeCatalog

namespace Entries

variable {κ α : Type} [DecidableEq κ]

theorem mem_put {es : Entries κ α} {k : κ} {a : α} {e : κ × α} (h : e ∈ put k a es) :
    e ∈ es ∨ e = (k, a) := by
  induction es with
  | nil => exact .inr (List.mem_singleton.1 h)
  | cons f es ih =>
      rw [put] at h
      split at h
      · exact (List.mem_cons.1 h).symm.imp_left (List.mem_cons_of_mem _)
      · rcases List.mem_cons.1 h with rfl | h
        · exact .inl List.mem_cons_self
        · exact (ih h).imp_left (List.mem_cons_of_mem _)

theorem mem_putAll {es new : Entries κ α} {e : κ × α} (h : e ∈ putAll es new) :
    e ∈ es ∨ e ∈ new := by
  induction new generalizing es with
  | nil => exact .inl h
  | cons f new ih =>
      rcases ih h with h | h
      · rcases mem_put h with h | rfl
        · exact .inl h
        · exact .inr List.mem_cons_self
      · exact .inr (List.mem_cons_of_mem _ h)

/-- Where no key stands twice, every entry is found. -/
theorem get?_of_mem {es : Entries κ α} (nodup : (keys es).Nodup) {k : κ} {a : α}
    (h : (k, a) ∈ es) : get? k es = some a := by
  induction es with
  | nil => cases h
  | cons e es ih =>
      obtain ⟨j, b⟩ := e
      obtain ⟨hj, nodup⟩ := List.nodup_cons.1 nodup
      unfold get?
      rcases List.mem_cons.1 h with he | h
      · obtain ⟨rfl, rfl⟩ := Prod.mk.inj he
        exact if_pos rfl
      · have hk : k ∈ keys es := List.mem_map_of_mem (f := Prod.fst) h
        rw [if_neg fun hjk : j = k => hj (hjk ▸ hk)]
        exact ih nodup h

theorem mem_keys_putAll {es new : Entries κ α} {k : κ} :
    k ∈ keys (putAll es new) ↔ k ∈ keys es ∨ k ∈ keys new := by
  induction new generalizing es with
  | nil => simp [putAll, keys]
  | cons e new ih =>
      obtain ⟨j, a⟩ := e
      have first : k ∈ keys (put j a es) ↔ k ∈ keys es ∨ k = j := by
        rw [keys_put]
        split
        · exact (or_iff_left_of_imp fun h => h ▸ ‹j ∈ keys es›).symm
        · rw [List.mem_append, List.mem_singleton]
      have rest : k ∈ keys ((j, a) :: new) ↔ k = j ∨ k ∈ keys new := List.mem_cons
      rw [rest, ← or_assoc, ← first]
      exact ih

/-- Keys that are there keep their places, and new ones follow in the order they are put. -/
theorem keys_putAll {es new : Entries κ α} (nodup : (keys new).Nodup) :
    keys (putAll es new) = keys es ++ (keys new).filter (· ∉ keys es) := by
  induction new generalizing es with
  | nil => simp [putAll, keys]
  | cons e new ih =>
      obtain ⟨k, a⟩ := e
      obtain ⟨hk, nodup⟩ := List.nodup_cons.1 nodup
      change keys (putAll (put k a es) new) = keys es ++ (k :: keys new).filter (· ∉ keys es)
      rw [ih nodup, keys_put]
      by_cases there : k ∈ keys es
      · rw [if_pos there, List.filter_cons_of_neg (by simpa using there)]
      · have others : (keys new).filter (· ∉ keys es ++ [k]) = (keys new).filter (· ∉ keys es) := by
          refine List.filter_congr fun j hj => ?_
          have hjk : j ≠ k := fun h => hk (h ▸ hj)
          simp [hjk]
        rw [if_neg there, others, List.filter_cons_of_pos (by simpa using there), List.append_assoc,
          List.singleton_append]

/-- A key that is put has its new value, and any other one what it had. -/
theorem get?_putAll {es new : Entries κ α} (nodup : (keys new).Nodup) (k : κ) :
    get? k (putAll es new) = (get? k new).or (get? k es) := by
  induction new generalizing es with
  | nil => rfl
  | cons e new ih =>
      obtain ⟨j, a⟩ := e
      obtain ⟨hj, nodup⟩ := List.nodup_cons.1 nodup
      change get? k (putAll (put j a es) new) = _
      rw [ih nodup, get?_put, get?]
      by_cases hjk : j = k
      · subst hjk
        rw [(get?_eq_none_iff new j).2 hj]
        simp
      · simp [hjk]

/-- Of the values that are put for one key the last counts. -/
theorem get?_ofList (es : Entries κ α) (k : κ) :
    get? k (ofList es) = (es.reverse.find? fun e => decide (e.1 = k)).map Prod.snd := by
  induction es using List.reverseRecOn with
  | nil => rfl
  | append_singleton es e ih =>
      have last : ofList (es ++ [e]) = put e.1 e.2 (ofList es) := List.foldl_append
      rw [last, get?_put, ih, List.reverse_append, List.reverse_singleton, List.singleton_append,
        List.find?_cons]
      by_cases h : e.1 = k <;> simp [h]

end Entries

namespace OrderedMap

variable {κ α : Type} [DecidableEq κ]

theorem get?_eq_some_iff {m : OrderedMap κ α} {k : κ} {a : α} :
    m.get? k = some a ↔ (k, a) ∈ m.entries :=
  ⟨Entries.mem_of_get?, Entries.get?_of_mem m.nodup⟩

theorem keys_insertAll (m n : OrderedMap κ α) :
    (m.insertAll n.entries).keys = m.keys ++ n.keys.filter (· ∉ m.keys) :=
  Entries.keys_putAll n.nodup

theorem get?_insertAll (m n : OrderedMap κ α) (k : κ) :
    (m.insertAll n.entries).get? k = (n.get? k).or (m.get? k) :=
  Entries.get?_putAll n.nodup k

theorem entries_eq (m : OrderedMap κ α) :
    m.entries = m.keys.filterMap fun k => (m.get? k).map fun a => (k, a) := by
  have found : ∀ e ∈ m.entries, (m.get? e.1).map (fun a => (e.1, a)) = some e := by
    intro e he
    rw [get?_eq_some_iff.2 he]
    rfl
  rw [keys, Entries.keys, List.filterMap_map]
  exact ((List.filterMap_congr found).trans List.filterMap_some).symm

/-- A map is known by the order of its keys and by what is found under them. -/
theorem ext_keys {m n : OrderedMap κ α} (same : m.keys = n.keys)
    (found : ∀ k, m.get? k = n.get? k) : m = n := by
  have entries : m.entries = n.entries := by
    rw [entries_eq m, entries_eq n, same]
    simp only [found]
  cases m
  cases n
  simpa using entries

/-- **Layers compose**: to put one layer after the other is to put the one updated by the other. -/
theorem insertAll_insertAll (m a b : OrderedMap κ α) :
    (m.insertAll a.entries).insertAll b.entries = m.insertAll (a.insertAll b.entries).entries := by
  refine ext_keys ?_ fun k => ?_
  · simp only [keys_insertAll, List.filter_append, List.filter_filter, List.append_assoc]
    congr 2
    refine List.filter_congr fun k _ => ?_
    by_cases hm : k ∈ m.keys <;> by_cases ha : k ∈ a.keys <;> simp [hm, ha]
  · simp only [get?_insertAll, Option.or_assoc]

end OrderedMap

end TypeCatalog
