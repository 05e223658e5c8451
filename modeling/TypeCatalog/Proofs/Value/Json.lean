import TypeCatalog.Json.Writer
import TypeCatalog.Proofs.Outcome
import TypeCatalog.Proofs.Value.Fields

/-! # Values — as JSON

What a document in JSON can hold, and when two such values are the same: lists item by item and
mappings entry by entry, where the order of the entries does not count.

* `IsJson`: there is nothing in the value but what a document in JSON can hold.
* `SameJson`: the values are the same but for the order of entries.
* `HasJson`: there is nothing in the value but what JSON has a form for.
* `hasJson_iff`: a JSON text can be written for just these values.
* `write?_ofFields`: the text of a mapping from texts.
-/

namespace TypeCatalog.Value

/-- Nothing, words, numbers, texts, lists, and mappings from texts, at every depth.  A whole number
is one that can be written in digits. -/
inductive IsJson : Value → Prop where
  | null : IsJson .null
  | bool (b : Bool) : IsJson (.bool b)
  | int {i : Int} (digits : Decimal.hasDigits i = true) : IsJson (.int i)
  | float (x : Float) : IsJson (.float x)
  | text (s : String) : IsJson (.text s)
  | list {xs : List Value} (items : ∀ x ∈ xs, IsJson x) : IsJson (.list xs)
  | dict {es : List (Value × Value)} (keys : ∀ e ∈ es, ∃ s, e.1 = .text s)
      (values : ∀ e ∈ es, IsJson e.2) : IsJson (.dict es)

/-- Equality of values, the order of the entries of mappings aside. -/
inductive SameJson : Value → Value → Prop where
  | refl (v : Value) : SameJson v v
  | list {xs ys : List Value} (items : List.Forall₂ SameJson xs ys) : SameJson (.list xs) (.list ys)
  | dict {es fs gs : List (Value × Value)} (order : es.Perm fs)
      (keys : fs.map Prod.fst = gs.map Prod.fst)
      (values : List.Forall₂ SameJson (fs.map Prod.snd) (gs.map Prod.snd)) :
      SameJson (.dict es) (.dict gs)

variable {n : String} {v w : Value} {xs : List Value} {es : List (Value × Value)}

@[simp] theorem isJson_text (s : String) : IsJson (.text s) := .text s

@[simp] theorem isJson_bool (b : Bool) : IsJson (.bool b) := .bool b

@[simp] theorem isJson_list_iff : IsJson (.list xs) ↔ ∀ x ∈ xs, x.IsJson := by
  constructor
  · rintro (_ | _ | _ | _ | _ | items)
    exact items
  · exact .list

/-- A document in JSON holds nothing that has no end. -/
theorem IsJson.opened (h : v.IsJson) : v.opened = v := by
  cases h <;> rfl

theorem IsJson.eq_dict (h : v.IsJson) (hes : v.entries? = some es) : v = .dict es := by
  cases h with
  | dict => exact congrArg Value.dict (Option.some.inj hes)
  | _ => cases hes

theorem IsJson.eq_list (h : v.IsJson) (hxs : v.items? = some xs) : v = .list xs := by
  cases h with
  | list => exact congrArg Value.list (Option.some.inj hxs)
  | _ => cases hxs

theorem IsJson.eq_text {s : String} (h : v.IsJson) (hs : v.asText? = some s) : v = .text s := by
  cases h with
  | text => exact congrArg Value.text (Option.some.inj hs)
  | _ => cases hs

theorem IsJson.of_mem {e : Value × Value} (h : IsJson (.dict es)) (he : e ∈ es) : e.2.IsJson := by
  cases h with
  | dict keys values => exact values e he

theorem IsJson.cons {e : Value × Value} (h : IsJson (.dict (e :: es))) :
    (∃ s, e.1 = .text s) ∧ e.2.IsJson ∧ IsJson (.dict es) := by
  cases h with
  | dict keys values =>
      obtain ⟨hk, hks⟩ := List.forall_mem_cons.1 keys
      obtain ⟨hv, hvs⟩ := List.forall_mem_cons.1 values
      exact ⟨hk, hv, .dict hks hvs⟩

theorem IsJson.of_field? (h : IsJson (.dict es)) (hv : field? n es = some v) : v.IsJson :=
  h.of_mem (mem_of_field? hv)

theorem IsJson.of_at? {path : List Value} (h : v.IsJson) (hw : at? path v = some w) :
    w.IsJson := by
  induction path generalizing v with
  | nil => exact Option.some.inj hw ▸ h
  | cons k path ih =>
      cases h with
      | dict keys values =>
          rw [at?_cons_dict, Option.bind_eq_some_iff] at hw
          obtain ⟨x, hx, hw⟩ := hw
          obtain ⟨e, he, rfl⟩ := exists_mem_of_lookup hx
          exact ih (values e he) hw
      | _ => cases hw

/-- A mapping from texts is one of JSON where its values are. -/
@[simp] theorem isJson_ofFields_iff {fields : List (String × Value)} :
    (ofFields fields).IsJson ↔ ∀ f ∈ fields, f.2.IsJson := by
  constructor
  · exact fun h f hf => h.of_mem (List.mem_map_of_mem hf)
  · intro h
    refine .dict (fun e he => ?_) fun e he => ?_
    · obtain ⟨f, -, rfl⟩ := List.mem_map.1 he
      exact ⟨f.1, rfl⟩
    · obtain ⟨f, hf, rfl⟩ := List.mem_map.1 he
      exact h f hf

/-- What is the same as a value of JSON is one. -/
theorem IsJson.of_same (h : v.IsJson) (same : SameJson v w) : w.IsJson := by
  induction h generalizing w with
  | list hxs ih =>
      cases same with
      | refl => exact .list hxs
      | list items =>
          refine .list fun y hy => ?_
          obtain ⟨x, hx, hxy⟩ := exists_of_forall₂ items.flip hy
          exact ih x hx hxy
  | dict hk hv ih =>
      cases same with
      | refl => exact .dict hk hv
      | dict order keys values =>
          refine .dict (fun g hg => ?_) fun g hg => ?_
          · obtain ⟨f, hf, hfg⟩ := List.mem_map.1 (keys ▸ List.mem_map_of_mem hg)
            obtain ⟨s, hs⟩ := hk f (order.mem_iff.2 hf)
            exact ⟨s, hfg.symm.trans hs⟩
          · obtain ⟨x, hx, hxg⟩ := exists_of_forall₂ values.flip (List.mem_map_of_mem hg)
            obtain ⟨f, hf, rfl⟩ := List.mem_map.1 hx
            exact ih f (order.mem_iff.2 hf) hxg
  | null =>
      cases same
      exact .null
  | bool b =>
      cases same
      exact .bool b
  | int digits =>
      cases same
      exact .int digits
  | float x =>
      cases same
      exact .float x
  | text s =>
      cases same
      exact .text s

/-! ### Writing -/

/-- What JSON has a form for, at every depth.  Besides what a document in JSON can hold, that is a
tuple, what is not a number, and a key that is a number or a word.  There is no form for bytes, for
dates and moments, for sets, for annotations, and for what has no end. -/
inductive HasJson : Value → Prop where
  | null : HasJson .null
  | bool (b : Bool) : HasJson (.bool b)
  | int {i : Int} (digits : Decimal.hasDigits i = true) : HasJson (.int i)
  | float (x : Float) : HasJson (.float x)
  | notNumber : HasJson .notNumber
  | text (s : String) : HasJson (.text s)
  | tuple {xs : List Value} (items : ∀ x ∈ xs, HasJson x) : HasJson (.tuple xs)
  | list {xs : List Value} (items : ∀ x ∈ xs, HasJson x) : HasJson (.list xs)
  | dict {es : List (Value × Value)} (keys : ∀ e ∈ es, ∃ t, Json.keyText? e.1 = some t)
      (values : ∀ e ∈ es, HasJson e.2) : HasJson (.dict es)

@[simp] theorem hasJson_text (s : String) : HasJson (.text s) := .text s

theorem hasJson_tuple_iff : HasJson (.tuple xs) ↔ ∀ x ∈ xs, x.HasJson := by
  constructor
  · rintro (_ | _ | _ | _ | _ | _ | items)
    exact items
  · exact .tuple

theorem hasJson_list_iff : HasJson (.list xs) ↔ ∀ x ∈ xs, x.HasJson := by
  constructor
  · rintro (_ | _ | _ | _ | _ | _ | _ | items)
    exact items
  · exact .list

theorem hasJson_dict_iff :
    HasJson (.dict es) ↔ (∀ e ∈ es, ∃ t, Json.keyText? e.1 = some t) ∧ ∀ e ∈ es, e.2.HasJson := by
  constructor
  · intro h
    cases h with
    | dict keys values => exact ⟨keys, values⟩
  · rintro ⟨keys, values⟩
    exact .dict keys values

/-- A mapping from texts has a form where its values have one. -/
theorem hasJson_ofFields_iff {fields : List (String × Value)} :
    (ofFields fields).HasJson ↔ ∀ f ∈ fields, f.2.HasJson := by
  rw [ofFields, hasJson_dict_iff, List.forall_mem_map, List.forall_mem_map]
  exact and_iff_right fun f _ => ⟨f.1, by rw [Json.keyText?]⟩

theorem IsJson.hasJson (h : v.IsJson) : v.HasJson := by
  induction h with
  | null => exact .null
  | bool b => exact .bool b
  | int digits => exact .int digits
  | float x => exact .float x
  | text s => exact .text s
  | list _ ih => exact .list ih
  | dict keys _ ih =>
      refine .dict (fun e he => ?_) ih
      obtain ⟨s, hs⟩ := keys e he
      exact ⟨s, by rw [hs, Json.keyText?]⟩

section

variable {fallback : Value → Option String}

/-- The items of a list are written one by one. -/
theorem writeItems?_eq_some_iff {ts : List String} :
    Json.writeItems? fallback xs = some ts ↔
      List.Forall₂ (fun x t => Json.write? fallback x = some t) xs ts := by
  induction xs generalizing ts with
  | nil => simp [Json.writeItems?, eq_comm]
  | cons x xs ih =>
      rw [Json.writeItems?]
      cases hx : Json.write? fallback x with
      | none =>
          refine iff_of_false (by simp) ?_
          rintro (_ | ⟨ht, -⟩)
          cases hx.symm.trans ht
      | some t =>
          simp only [Option.map_eq_some_iff, ih]
          constructor
          · rintro ⟨ts, hts, rfl⟩
            exact .cons hx hts
          · rintro (_ | ⟨ht, hts⟩)
            obtain rfl := Option.some.inj (hx.symm.trans ht)
            exact ⟨_, hts, rfl⟩

/-- The text of a mapping from texts, whose values have the texts that stand with the keys. -/
def mappingText (members : List (String × String)) : String :=
  "\x7b" ++ ", ".intercalate (members.map fun m => Json.encode m.1 ++ ": " ++ m.2) ++ "\x7d"

/-- `member` is how a field is written. -/
def IsWritten (fallback : Value → Option String) (field : String × Value)
    (member : String × String) : Prop :=
  member.1 = field.1 ∧ Json.write? fallback field.2 = some member.2

/-- The fields of a mapping from texts are written one by one. -/
theorem write?_ofFields {fields : List (String × Value)} {members : List (String × String)}
    (h : List.Forall₂ (IsWritten fallback) fields members) :
    Json.write? fallback (ofFields fields) = some (mappingText members) := by
  have written : Json.writeMembers? fallback (fields.map fun f => (.text f.1, f.2)) =
      some (members.map fun m => Json.encode m.1 ++ ": " ++ m.2) := by
    induction h with
    | nil => rfl
    | cons h _ ih => simp [Json.writeMembers?, Json.keyText?, h.2, ← h.1, ih]
  rw [ofFields, Json.write?, written]
  rfl

theorem exists_writeItems (h : ∀ x ∈ xs, ∃ t, Json.write? fallback x = some t) :
    ∃ ts, Json.writeItems? fallback xs = some ts := by
  induction xs with
  | nil => exact ⟨[], rfl⟩
  | cons x xs ih =>
      obtain ⟨⟨t, ht⟩, hxs⟩ := List.forall_mem_cons.1 h
      obtain ⟨ts, hts⟩ := ih hxs
      exact ⟨t :: ts, by rw [Json.writeItems?, ht, hts]; rfl⟩

theorem exists_writeMembers (hk : ∀ e ∈ es, ∃ t, Json.keyText? e.1 = some t)
    (h : ∀ e ∈ es, ∃ t, Json.write? fallback e.2 = some t) :
    ∃ ts, Json.writeMembers? fallback es = some ts := by
  induction es with
  | nil => exact ⟨[], rfl⟩
  | cons e es ih =>
      obtain ⟨k, v⟩ := e
      obtain ⟨⟨s, hs⟩, hks⟩ := List.forall_mem_cons.1 hk
      obtain ⟨⟨t, ht⟩, hes⟩ := List.forall_mem_cons.1 h
      obtain ⟨ts, hts⟩ := ih hks hes
      exact ⟨_, by rw [Json.writeMembers?, hs, ht, hts]; rfl⟩

theorem HasJson.exists_write (h : v.HasJson) : ∃ t, Json.write? fallback v = some t := by
  induction h with
  | list items ih | tuple items ih =>
      obtain ⟨ts, hts⟩ := exists_writeItems ih
      exact ⟨_, by rw [Json.write?, hts]; rfl⟩
  | dict keys values ih =>
      obtain ⟨ts, hts⟩ := exists_writeMembers keys ih
      exact ⟨_, by rw [Json.write?, hts]; rfl⟩
  | int digits => exact ⟨_, by rw [Json.write?, Json.wholeText?, if_pos digits]⟩
  | null | bool | float | notNumber | text => exact ⟨_, by rw [Json.write?]⟩

/-- **A value of JSON** has a JSON text. -/
theorem IsJson.exists_write (h : v.IsJson) : ∃ t, Json.write? fallback v = some t :=
  h.hasJson.exists_write

end

theorem hasDigits_of_wholeText? {i : Int} {t : String} (h : Json.wholeText? i = some t) :
    Decimal.hasDigits i = true := by
  by_contra hi
  rw [Json.wholeText?, if_neg hi] at h
  cases h

-- Along the recursion of writing, where nothing is written for what has no JSON form.
mutual

theorem hasJson_of_write : ∀ v : Value, (∃ t, Json.writePlain? v = some t) → v.HasJson
  | .null => fun _ => .null
  | .bool b => fun _ => .bool b
  | .int _ => fun ⟨_, h⟩ => .int (hasDigits_of_wholeText? h)
  | .float x => fun _ => .float x
  | .notNumber => fun _ => .notNumber
  | .text s => fun _ => .text s
  | .bytes _ | .date _ | .moment _ | .set _ | .nested _ _ _ _ | .knot _ => by
      rintro ⟨t, h⟩
      rw [Json.writePlain?, Json.write?] at h
      cases h
  | .tuple xs => by
      rintro ⟨t, h⟩
      rw [Json.writePlain?, Json.write?, Option.map_eq_some_iff] at h
      obtain ⟨ts, hts, -⟩ := h
      exact .tuple (hasJson_of_writeItems xs hts)
  | .list xs => by
      rintro ⟨t, h⟩
      rw [Json.writePlain?, Json.write?, Option.map_eq_some_iff] at h
      obtain ⟨ts, hts, -⟩ := h
      exact .list (hasJson_of_writeItems xs hts)
  | .dict es => by
      rintro ⟨t, h⟩
      rw [Json.writePlain?, Json.write?, Option.map_eq_some_iff] at h
      obtain ⟨ts, hts, -⟩ := h
      obtain ⟨keys, values⟩ := hasJson_of_writeMembers es hts
      exact .dict keys values

theorem hasJson_of_writeItems : ∀ (xs : List Value) {ts : List String},
    Json.writeItems? (fun _ => none) xs = some ts → ∀ x ∈ xs, x.HasJson
  | [], _, _ => List.forall_mem_nil _
  | x :: xs, ts, h => by
      rw [Json.writeItems?] at h
      split at h
      · rename_i t ht
        obtain ⟨ts, hts, -⟩ := Option.map_eq_some_iff.1 h
        exact List.forall_mem_cons.2 ⟨hasJson_of_write x ⟨t, ht⟩, hasJson_of_writeItems xs hts⟩
      · cases h

theorem hasJson_of_writeMembers : ∀ (es : List (Value × Value)) {ts : List String},
    Json.writeMembers? (fun _ => none) es = some ts →
      (∀ e ∈ es, ∃ t, Json.keyText? e.1 = some t) ∧ ∀ e ∈ es, e.2.HasJson
  | [], _, _ => ⟨List.forall_mem_nil _, List.forall_mem_nil _⟩
  | (k, v) :: es, ts, h => by
      rw [Json.writeMembers?] at h
      split at h
      · rename_i s t hs ht
        obtain ⟨ts, hts, -⟩ := Option.map_eq_some_iff.1 h
        obtain ⟨keys, values⟩ := hasJson_of_writeMembers es hts
        exact ⟨List.forall_mem_cons.2 ⟨⟨s, hs⟩, keys⟩,
          List.forall_mem_cons.2 ⟨hasJson_of_write v ⟨t, ht⟩, values⟩⟩
      · cases h

end

/-- **A JSON text** can be written for just the values that JSON has a form for. -/
theorem hasJson_iff : v.HasJson ↔ ∃ t, Json.writePlain? v = some t :=
  ⟨HasJson.exists_write, hasJson_of_write v⟩

end TypeCatalog.Value
