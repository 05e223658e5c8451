import Mathlib.Data.List.Forall2
import TypeCatalog.Checked
import TypeCatalog.Proofs.Ordered
import TypeCatalog.Proofs.Value.Fields

/-! # Checked values — when a check is passed

A check is passed where all its parts are: one lemma says so for each way to put checks together.

* `fieldOr_eq_valid_iff`, `field_eq_valid_iff`: fields with and without a default.
* `entries_eq_valid_iff`, `itemsFrom_eq_valid_iff`: mappings and lists pass entry by entry.
* `Passes`: a check is passed, whatever the value stands for.
-/

namespace TypeCatalog.Checked

variable {α β : Type}

@[simp] theorem reject_ne_valid (cause : Cause) (v : Value) (a : α) :
    (reject cause v : Checked α) ≠ .valid a := by
  intro h
  cases h

theorem map_eq_valid_iff {c : Checked α} {f : α → β} {b : β} :
    c.map f = .valid b ↔ ∃ a, c = .valid a ∧ f a = b := by
  cases c <;> simp [map]

theorem and_eq_valid_iff {c : Checked α} {d : Checked β} {p : α × β} :
    c.and d = .valid p ↔ c = .valid p.1 ∧ d = .valid p.2 := by
  obtain ⟨a, b⟩ := p
  cases c <;> cases d <;> simp [Checked.and]

theorem andThen_eq_valid_iff {c : Checked α} {f : α → Checked β} {b : β} :
    c.andThen f = .valid b ↔ ∃ a, c = .valid a ∧ f a = .valid b := by
  cases c <;> simp [andThen]

theorem under_eq_valid_iff {c : Checked α} {name : String} {a : α} :
    c.under name = .valid a ↔ c = .valid a := by
  cases c <;> simp [under]

/-! ### Scalars -/

theorem text_eq_valid_iff {v : Value} {s : String} : text v = .valid s ↔ v.asText? = some s := by
  unfold text
  cases v.asText? <;> simp

theorem word_eq_valid_iff {asText? : Value → Option String} {ofWord? : String → Option α}
    {cause : Cause} {v : Value} {a : α} :
    word asText? ofWord? cause v = .valid a ↔ ∃ s, asText? v = some s ∧ ofWord? s = some a := by
  rw [← Option.bind_eq_some_iff]
  unfold word
  cases (asText? v).bind ofWord? <;> simp

theorem record_eq_valid_iff {name : String} {v : Value} {es : List (Value × Value)} :
    record name v = .valid es ↔ v.entries? = some es := by
  unfold record
  cases v.entries? <;> simp

theorem record_dict {name : String} {es : List (Value × Value)} :
    record name (.dict es) = .valid es := rfl

/-! ### Fields -/

variable {whole : Value} {fields : List (Value × Value)} {name : String}
  {check : Value → Checked α} {a : α}

theorem field_eq_valid_iff :
    field whole fields name check = .valid a ↔
      ∃ v, Value.field? name fields = some v ∧ check v = .valid a := by
  unfold field
  cases Value.field? name fields <;> simp [under_eq_valid_iff]

theorem fieldOr_eq_valid_iff {default : α} :
    fieldOr fields name default check = .valid a ↔
      Value.field? name fields = none ∧ default = a ∨
        ∃ v, Value.field? name fields = some v ∧ check v = .valid a := by
  unfold fieldOr
  cases Value.field? name fields <;> simp [under_eq_valid_iff]

/-- Nothing but texts among `names` stands as a key. -/
theorem onlyFields_eq_valid_iff {names : List String} {es : List (Value × Value)} :
    onlyFields names es = .valid () ↔ ∀ e ∈ es, ∃ n ∈ names, e.1 = .text n := by
  induction es with
  | nil => simp [onlyFields]
  | cons e es ih =>
      obtain ⟨k, v⟩ := e
      cases k with
      | text s =>
          by_cases hs : s ∈ names <;>
            simp [onlyFields, map_eq_valid_iff, and_eq_valid_iff, under_eq_valid_iff, hs, ih]
      | _ => simp [onlyFields, map_eq_valid_iff, and_eq_valid_iff, under_eq_valid_iff]

/-! ### Sequences and mappings -/

theorem itemsFrom_eq_valid_iff {i : Nat} {vs : List Value} {as : List α} :
    itemsFrom check i vs = .valid as ↔ List.Forall₂ (fun v a => check v = .valid a) vs as := by
  induction vs generalizing i as with
  | nil => simp [itemsFrom, eq_comm]
  | cons v vs ih =>
      simp only [itemsFrom, map_eq_valid_iff, and_eq_valid_iff, under_eq_valid_iff, ih]
      constructor
      · rintro ⟨⟨a, as⟩, ⟨ha, has⟩, rfl⟩
        exact .cons ha has
      · rintro (_ | ⟨ha, has⟩)
        exact ⟨(_, _), ⟨ha, has⟩, rfl⟩

theorem key_eq_valid_iff {k : Value} {s : String} : key k = .valid s ↔ k.asText? = some s := by
  rw [← text_eq_valid_iff, key]
  cases text k <;> simp [under]

theorem entries_eq_valid_iff {es : List (Value × Value)} {out : Entries String α} :
    entries check es = .valid out ↔
      List.Forall₂ (fun e o => e.1.asText? = some o.1 ∧ check e.2 = .valid o.2) es out := by
  induction es generalizing out with
  | nil => simp [entries, eq_comm]
  | cons e es ih =>
      obtain ⟨k, v⟩ := e
      simp only [entries, map_eq_valid_iff, and_eq_valid_iff, under_eq_valid_iff,
        key_eq_valid_iff, ih]
      constructor
      · rintro ⟨⟨n, a, out⟩, ⟨hk, ha, hout⟩, rfl⟩
        exact .cons ⟨hk, ha⟩ hout
      · rintro (_ | ⟨⟨hk, ha⟩, hout⟩)
        exact ⟨(_, _, _), ⟨hk, ha, hout⟩, rfl⟩

theorem mem_of_mem_byName {es : List (Value × Value)} {fields : Entries String α}
    {o : String × α} (h : o ∈ byName es fields) : o ∈ fields := by
  rw [byName] at h
  split at h
  · exact (Entries.mem_putAll h).resolve_left List.not_mem_nil
  · exact h

/-- Where no key is given in bytes, entries are as they are. -/
theorem byName_of_texts {es : List (Value × Value)} {fields : Entries String α}
    (h : ∀ e ∈ es, ∃ s, e.1 = .text s) : byName es fields = fields := by
  refine if_neg fun bytes => ?_
  obtain ⟨e, he, hb⟩ := List.any_eq_true.1 bytes
  obtain ⟨s, hs⟩ := h e he
  rw [hs] at hb
  cases hb

/-- In lists that go together, the first of either kind go together. -/
theorem rel_find? {γ δ : Type} {R : γ → δ → Prop} {p : γ → Bool} {q : δ → Bool}
    (same : ∀ c d, R c d → p c = q d) {cs : List γ} {ds : List δ} (h : List.Forall₂ R cs ds) :
    Option.Rel R (cs.find? p) (ds.find? q) := by
  induction h with
  | nil => exact .none
  | @cons c d cs ds hcd _ ih =>
      rw [List.find?_cons, List.find?_cons, same c d hcd]
      cases q d with
      | true => exact .some hcd
      | false => exact ih

/-- Keys that are not given in bytes are the names of what stands for their entries. -/
theorem keys_of_entries {es : List (Value × Value)} {fields : Entries String α}
    (h : entries check es = .valid fields) (texts : ∀ e ∈ es, isBytes e.1 = false) :
    es.map Prod.fst = (Entries.keys fields).map Value.text := by
  rw [entries_eq_valid_iff] at h
  induction h with
  | nil => rfl
  | @cons e o es fields heo _ ih =>
      obtain ⟨he, texts⟩ := List.forall_mem_cons.1 texts
      have key : e.1 = .text o.1 := by
        have name := heo.1
        cases hk : e.1 with
        | text s =>
            rw [hk] at name
            exact congrArg Value.text (Option.some.inj name)
        | bytes bs =>
            rw [hk] at he
            cases he
        | _ =>
            rw [hk] at name
            cases name
      exact congrArg₂ List.cons key (ih texts)

/-- Of the entries with one name the last counts, where keys are apart. -/
theorem get?_byName {es : List (Value × Value)} {fields : Entries String α}
    (apart : Value.KeysApart es) (h : entries check es = .valid fields) (name : String) :
    Entries.get? name (byName es fields) = Entries.get? name (Entries.ofList fields) := by
  rw [byName]
  split
  · rfl
  · rename_i texts
    have keys := keys_of_entries h fun e he =>
      eq_false_of_ne_true fun hb => texts (List.any_eq_true.2 ⟨e, he, hb⟩)
    have nodup : (Entries.keys fields).Nodup := by
      have apart : (es.map Prod.fst).Pairwise fun j k => j.agrees k = false :=
        List.pairwise_map.2 apart
      rw [keys, List.pairwise_map] at apart
      exact apart.imp fun {m n} h same => by
        rw [same, Value.text_agrees_iff.2 rfl] at h
        cases h
    rw [Entries.ofList, Entries.get?_putAll nodup, Entries.get?, Option.or_none]

theorem mapping_eq_valid_iff {v : Value} {out : Entries String α} :
    mapping check v = .valid out ↔
      ∃ es fields, v.entries? = some es ∧ entries check es = .valid fields ∧
        byName es fields = out := by
  unfold mapping
  cases v.entries? <;> simp [map_eq_valid_iff]

theorem list_eq_valid_iff {v : Value} {as : List α} :
    list check v = .valid as ↔
      ∃ vs, v.items? = some vs ∧ List.Forall₂ (fun v a => check v = .valid a) vs as := by
  unfold list
  cases v.items? <;> simp [itemsFrom_eq_valid_iff]

/-! ### Passing -/

/-- The value stands for something. -/
def Passes (c : Checked α) : Prop := ∃ a, c = .valid a

theorem passes_map {c : Checked α} {f : α → β} : (c.map f).Passes ↔ c.Passes := by
  simp [Passes, map_eq_valid_iff]

theorem passes_and {c : Checked α} {d : Checked β} :
    (c.and d).Passes ↔ c.Passes ∧ d.Passes := by
  simp [Passes, and_eq_valid_iff]

theorem passes_under {c : Checked α} : (c.under name).Passes ↔ c.Passes := by
  simp [Passes, under_eq_valid_iff]

theorem passes_fieldOr {default : α} :
    (fieldOr fields name default check).Passes ↔
      ∀ v, Value.field? name fields = some v → (check v).Passes := by
  unfold fieldOr
  cases Value.field? name fields with
  | none => simp [Passes]
  | some v => simp [passes_under]

/-- Entries pass if each has a key that is a text, and a value that passes. -/
theorem passes_entries {es : List (Value × Value)} :
    (entries check es).Passes ↔ ∀ e ∈ es, (∃ s, e.1.asText? = some s) ∧ (check e.2).Passes := by
  simp only [Passes, entries_eq_valid_iff]
  induction es with
  | nil => exact ⟨fun _ _ he => (nomatch he), fun _ => ⟨[], .nil⟩⟩
  | cons e es ih =>
      rw [List.forall_mem_cons, ← ih]
      constructor
      · rintro ⟨_, _ | ⟨⟨hk, ha⟩, hout⟩⟩
        exact ⟨⟨⟨_, hk⟩, _, ha⟩, _, hout⟩
      · rintro ⟨⟨⟨s, hs⟩, a, ha⟩, out, hout⟩
        exact ⟨(s, a) :: out, .cons ⟨hs, ha⟩ hout⟩

theorem passes_mapping {v : Value} :
    (mapping check v).Passes ↔ ∃ es, v.entries? = some es ∧ (entries check es).Passes := by
  unfold mapping
  cases v.entries? with
  | none => simp [Passes]
  | some es => simp [passes_map]

/-- A check of a record passes if the value is one, and its fields pass. -/
theorem passes_record {name : String} {v : Value} {f : List (Value × Value) → Checked α} :
    ((record name v).andThen f).Passes ↔ ∃ es, v.entries? = some es ∧ (f es).Passes := by
  unfold record
  cases v.entries? <;> simp [Passes, andThen, reject]

end TypeCatalog.Checked
