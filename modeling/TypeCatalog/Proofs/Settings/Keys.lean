import TypeCatalog.Proofs.Ordered
import TypeCatalog.Proofs.Outcome
import TypeCatalog.Proofs.Settings.Layers
import TypeCatalog.Settings.Load

/-! # Settings — keys of what is laid over the files

What environment variables give is put together part by part, from names that are cut in pieces and
from texts in JSON; what a caller gives is sorted by sections.  In either no two keys of a mapping
agree, at whatever depth, so both can be laid over the files field by field.

* `wellKeyed_merge`: layers of well-keyed mappings are well keyed.
* `wellKeyed_ofVariables`: what variables give is well keyed.
* `Given.field?_of_ofEntries?`: a caller gives a section under its name, in whatever case.
-/

namespace TypeCatalog

open Layers
open Value (WellKeyed KeysApart field?)

/-! ### Layers -/

namespace Layers

variable {es fs : List (Value × Value)}

/-- Putting well-keyed values into a well-keyed mapping leaves it one. -/
theorem wellKeyed_putAll (hes : WellKeyed (.dict es)) (hfs : ∀ f ∈ fs, f.2.WellKeyed) :
    WellKeyed (.dict (putAll es fs)) := by
  induction fs generalizing es with
  | nil => exact hes
  | cons f fs ih =>
      obtain ⟨hf, hfs⟩ := List.forall_mem_cons.1 hfs
      exact ih (hes.put hf) hfs

/-- By induction on the levels. -/
theorem wellKeyed_overlayTo {n : Nat} {lower : Option Value} {w x : Value} (hw : w.WellKeyed)
    (hl : ∀ v, lower = some v → v.WellKeyed) (h : overlayTo n lower w = some x) :
    x.WellKeyed := by
  induction n generalizing lower w x with
  | zero => cases h
  | succ n ih =>
      by_cases other : lower.bind Value.entries? = none ∨ w.entries? = none
      · rw [overlayTo_succ_other other] at h
        exact Option.some.inj h ▸ hw
      · rw [not_or] at other
        obtain ⟨es, hv⟩ := Option.ne_none_iff_exists'.1 other.1
        obtain ⟨fs, hfs⟩ := Option.ne_none_iff_exists'.1 other.2
        obtain ⟨v, rfl, hv⟩ := Option.bind_eq_some_iff.1 hv
        have lower := (hl v rfl).of_entries? hv
        have upper := hw.of_entries? hfs
        rw [overlayTo_succ_mappings hv hfs] at h
        have all : ∀ f ∈ fs, overlayTo n (Value.lookup f.1 es) f.2 ≠ none := by
          intro f hf hn
          rw [mergeBy_eq_none_iff.2 ⟨f, hf, hn⟩] at h
          cases h
        rw [mergeBy_eq_some all] at h
        obtain rfl := Option.some.inj h
        refine wellKeyed_putAll lower (List.forall_mem_map.2 fun f hf => ?_)
        obtain ⟨y, hy⟩ := Option.ne_none_iff_exists'.1 (all f hf)
        exact eq_overlay_of_overlayTo hy ▸ ih (upper.of_mem hf) (fun _ => lower.of_lookup) hy

theorem wellKeyed_overlay {lower : Option Value} {w : Value} (hw : w.WellKeyed)
    (hl : ∀ v, lower = some v → v.WellKeyed) : (overlay lower w).WellKeyed := by
  cases lower with
  | none => exact hw
  | some v =>
      rw [overlay]
      cases h : overlayTo (levels v w + 1) (some v) w with
      | none => exact hw
      | some x => exact wellKeyed_overlayTo hw hl h

/-- **Layers** of well-keyed mappings are well keyed. -/
theorem wellKeyed_merge (hes : WellKeyed (.dict es)) (hfs : WellKeyed (.dict fs)) :
    WellKeyed (.dict (merge es fs)) :=
  wellKeyed_putAll hes (List.forall_mem_map.2 fun _ hf =>
    wellKeyed_overlay (hfs.of_mem hf) fun _ => hes.of_lookup)

end Layers

/-! ### JSON -/

namespace Json

/-- Members that are put one after the other are well keyed where their values are. -/
theorem wellKeyed_ofList {fields : Entries String Value} (hv : ∀ f ∈ fields, f.2.WellKeyed) :
    (Value.ofFields (Entries.ofList fields)).WellKeyed := by
  refine .dict (Value.keysApart_ofFields (OrderedMap.ofList fields).nodup) fun e he => ?_
  obtain ⟨f, hf, rfl⟩ := List.mem_map.1 he
  rcases Entries.mem_putAll hf with hf | hf
  · cases hf
  · exact hv f hf

theorem wellKeyed_unsigned {negative : Bool} {cs rest : List Char} {v : Value}
    (h : unsigned? negative cs = some (v, rest)) : v.WellKeyed := by
  simp only [unsigned?] at h
  split at h
  · cases h
  · split at h
    · obtain ⟨rfl, -⟩ := Prod.mk.inj (Option.some.inj h)
      exact .other nofun nofun nofun
    · split at h
      · split at h
        · obtain ⟨rfl, -⟩ := Prod.mk.inj (Option.some.inj h)
          exact .other nofun nofun nofun
        · cases h
      · obtain ⟨rfl, -⟩ := Prod.mk.inj (Option.some.inj h)
        exact .other nofun nofun nofun

theorem wellKeyed_scalar {cs rest : List Char} {v : Value} (h : scalar? cs = some (v, rest)) :
    v.WellKeyed := by
  rw [scalar?] at h
  split at h
  · rename_i r hr
    obtain rfl := Option.some.inj h
    obtain ⟨w, hw, h⟩ := List.exists_of_findSome?_eq_some hr
    obtain ⟨_, _, h⟩ := Option.map_eq_some_iff.1 h
    obtain ⟨rfl, -⟩ := Prod.mk.inj h
    simp only [words, List.mem_cons, List.not_mem_nil, or_false] at hw
    rcases hw with rfl | rfl | rfl | rfl | rfl | rfl <;> exact .other nofun nofun nofun
  · split at h
    · obtain ⟨rfl, -⟩ := Prod.mk.inj (Option.some.inj h)
      exact .text _
    · unfold number? at h
      split at h
      · exact wellKeyed_unsigned h
      · exact wellKeyed_unsigned h

-- Along the recursion of reading.
mutual

theorem wellKeyed_value : ∀ (fuel : Nat) {cs rest : List Char} {v : Value},
    value? fuel cs = some (v, rest) → v.WellKeyed
  | 0, cs, rest, v, h => nomatch h
  | fuel + 1, cs, rest, v, h => by
      rw [value?] at h
      split at h
      · split at h
        · obtain ⟨rfl, -⟩ := Prod.mk.inj (Option.some.inj h)
          exact .list nofun
        · obtain ⟨r, hr, h⟩ := Option.map_eq_some_iff.1 h
          obtain ⟨rfl, -⟩ := Prod.mk.inj h
          exact .list (wellKeyed_items fuel hr)
      · split at h
        · obtain ⟨rfl, -⟩ := Prod.mk.inj (Option.some.inj h)
          exact .nil
        · obtain ⟨r, hr, h⟩ := Option.map_eq_some_iff.1 h
          obtain ⟨rfl, -⟩ := Prod.mk.inj h
          exact wellKeyed_ofList (wellKeyed_members fuel hr)
      · exact wellKeyed_scalar h

theorem wellKeyed_items : ∀ (fuel : Nat) {cs : List Char} {r : List Value × List Char},
    items? fuel cs = some r → ∀ v ∈ r.1, v.WellKeyed
  | 0, cs, r, h => nomatch h
  | fuel + 1, cs, r, h => by
      rw [items?] at h
      split at h
      · cases h
      · rename_i v rest hv
        have first := wellKeyed_value fuel hv
        split at h
        · obtain ⟨more, hm, rfl⟩ := Option.map_eq_some_iff.1 h
          exact List.forall_mem_cons.2 ⟨first, wellKeyed_items fuel hm⟩
        · obtain rfl := Option.some.inj h
          exact List.forall_mem_singleton.2 first
        · cases h

theorem wellKeyed_members : ∀ (fuel : Nat) {cs : List Char}
    {r : Entries String Value × List Char}, members? fuel cs = some r → ∀ f ∈ r.1, f.2.WellKeyed
  | 0, cs, r, h => nomatch h
  | fuel + 1, cs, r, h => by
      rw [members?] at h
      split at h
      · cases h
      · split at h
        · split at h
          · cases h
          · rename_i v rest hv
            have first := wellKeyed_value fuel hv
            split at h
            · obtain ⟨more, hm, rfl⟩ := Option.map_eq_some_iff.1 h
              exact List.forall_mem_cons.2 ⟨first, wellKeyed_members fuel hm⟩
            · obtain rfl := Option.some.inj h
              exact List.forall_mem_singleton.2 first
            · cases h
        · cases h

end

/-- **The value of a text in JSON** is well keyed. -/
theorem wellKeyed_read {text : String} {v : Value} (h : read? text = some v) : v.WellKeyed := by
  simp only [read?] at h
  split at h
  · rename_i w rest hw
    split at h
    · obtain rfl := Option.some.inj h
      exact wellKeyed_value _ hw
    · cases h
  · cases h

end Json

/-! ### Variables -/

namespace Environment

variable {n : Naming} {es : List (Value × Value)}

theorem wellKeyed_valueOf {t : Option Shape.Target} {text : String} {v : Value}
    (h : valueOf? t text = some v) : v.WellKeyed := by
  unfold valueOf? at h
  split at h
  · split at h
    · split at h
      · rename_i w hw
        obtain rfl := Option.some.inj h
        exact Json.wellKeyed_read hw
      · split at h
        · obtain rfl := Option.some.inj h
          exact .text _
        · cases h
    · obtain rfl := Option.some.inj h
      exact .text _
  · obtain rfl := Option.some.inj h
    exact .text _

theorem wellKeyed_putAt {path : List String} {v : Value} (hv : v.WellKeyed)
    (h : WellKeyed (.dict es)) : WellKeyed (.dict (putAt path v es)) := by
  fun_induction putAt path v es with
  | case1 es => exact h
  | case2 n es => exact h.put hv
  | case3 n m r es inner hi ih => exact h.put (ih (h.of_field? hi))
  | case4 n m r es w hw hd => exact h
  | case5 n m r es hn ih => exact h.put (ih .nil)

theorem wellKeyed_parts {name : String} {shape : Shape} {env : Entries String String}
    {fs : List (Value × Value)} (h : WellKeyed (.dict es))
    (hp : partsOf? n name shape env es = some fs) : WellKeyed (.dict fs) := by
  induction env generalizing es with
  | nil =>
      obtain rfl := Option.some.inj hp
      exact h
  | cons e env ih =>
      obtain ⟨k, text⟩ := e
      rw [partsOf?] at hp
      split at hp
      · exact ih h hp
      · simp only at hp
        split at hp
        · cases hp
        · rename_i w hw
          exact ih (wellKeyed_putAt (wellKeyed_valueOf hw) h) hp

theorem wellKeyed_partsGiven {name : String} {shape : Shape} {env : Entries String String}
    {fs : List (Value × Value)} (hp : partsGiven? n name shape env = some fs) :
    WellKeyed (.dict fs) := by
  rw [partsGiven?] at hp
  split at hp
  · obtain rfl := Option.some.inj hp
    exact .nil
  · exact wellKeyed_parts .nil hp

theorem wellKeyed_renamed (shape : Shape) (h : WellKeyed (.dict es)) :
    WellKeyed (.dict (renamed n shape es)) := by
  have puts {step : List (Value × Value) → Value × Value → List (Value × Value)}
      (hs : ∀ done e, ∃ k, step done e = Value.put k e.2 done) {done : List (Value × Value)}
      (hd : WellKeyed (.dict done)) (hes : ∀ e ∈ es, e.2.WellKeyed) :
      WellKeyed (.dict (es.foldl step done)) := by
    clear h
    induction es generalizing done with
    | nil => exact hd
    | cons e es ih =>
        obtain ⟨he, hes⟩ := List.forall_mem_cons.1 hes
        obtain ⟨k, hk⟩ := hs done e
        rw [List.foldl_cons, hk]
        exact ih (hd.put he) hes
  unfold renamed
  split
  · refine puts (fun done e => ?_) .nil fun e he => h.of_mem he
    split <;> exact ⟨_, rfl⟩
  · exact h

theorem wellKeyed_ofValue {shape : Shape} {v w : Value} (hw : w.WellKeyed)
    (h : Given.ofValue n shape w = .value v) : v.WellKeyed := by
  unfold Given.ofValue at h
  split at h
  · cases h
  · obtain rfl := Given.value.inj h
    exact wellKeyed_renamed shape hw
  · obtain rfl := Given.value.inj h
    exact hw

theorem wellKeyed_section {env : Entries String String} {name : String} {shape : Shape} {v : Value}
    (h : section? n env name shape = .value v) : v.WellKeyed := by
  unfold section? at h
  split at h
  · split at h
    · cases h
    · cases h
    · rename_i hp
      exact wellKeyed_ofValue (wellKeyed_partsGiven hp) h
  · split at h
    · cases h
    · rename_i hr
      split at h
      · cases h
      · rename_i hp
        have whole := Json.wellKeyed_read hr
        refine wellKeyed_ofValue ?_ h
        cases hm : merge? _ _ with
        | none => exact whole
        | some gs =>
            obtain ⟨-, rfl⟩ := merge?_eq_some_iff.1 hm
            exact wellKeyed_merge whole (wellKeyed_partsGiven hp)
    · rename_i hr
      exact wellKeyed_ofValue (Json.wellKeyed_read hr) h

/-- The sections stand apart where their names do. -/
theorem wellKeyed_read {env : List (String × String)} {shapes : List (String × Shape)}
    (names : (shapes.map Prod.fst).Nodup) (h : read n env shapes = .ok es) :
    WellKeyed (.dict es) ∧ ∀ e ∈ es, ∃ name ∈ shapes.map Prod.fst, e.1 = .text name := by
  induction shapes generalizing es with
  | nil =>
      obtain rfl := Except.ok.inj h
      exact ⟨.nil, nofun⟩
  | cons s shapes ih =>
      obtain ⟨name, shape⟩ := s
      obtain ⟨new, names⟩ := List.nodup_cons.1 names
      rw [read] at h
      split at h
      · cases h
      · obtain ⟨keyed, keys⟩ := ih names h
        refine ⟨keyed, fun e he => ?_⟩
        obtain ⟨m, hm, hk⟩ := keys e he
        exact ⟨m, List.mem_cons_of_mem _ hm, hk⟩
      · rename_i v hv
        obtain ⟨rest, hr, rfl⟩ := map_eq_ok_iff.1 h
        obtain ⟨keyed, keys⟩ := ih names hr
        refine ⟨.dict (List.pairwise_cons.2 ⟨fun e he => ?_, keyed.keysApart⟩) ?_, ?_⟩
        · obtain ⟨m, hm, hk⟩ := keys e he
          refine eq_false_of_ne_true fun same => new ?_
          obtain rfl := Value.text.inj (hk.symm.trans (Value.text_agrees_iff.1 same))
          exact hm
        · exact List.forall_mem_cons.2 ⟨wellKeyed_section hv, fun e he => keyed.of_mem he⟩
        · refine List.forall_mem_cons.2 ⟨⟨name, List.mem_cons_self, rfl⟩, fun e he => ?_⟩
          obtain ⟨m, hm, hk⟩ := keys e he
          exact ⟨m, List.mem_cons_of_mem _ hm, hk⟩

end Environment

/-- **What variables give** is well keyed. -/
theorem Settings.wellKeyed_ofVariables {naming : Environment.Naming} {env : List (String × String)}
    {es : List (Value × Value)} (h : ofVariables naming env = .ok es) : WellKeyed (.dict es) :=
  (Environment.wellKeyed_read (by decide) (mapError_eq_ok_iff.1 h)).1

/-! ### Callers -/

namespace Settings.Given

/-- The names of all options. -/
def optionNames : List String :=
  ["_env_prefix", "_env_nested_delimiter", "_env_nested_max_split", "_case_sensitive",
    "_env_ignore_empty"] ++ idleOptions

/-- The entry is for a setting and not for an option. -/
def isSetting (e : Value × Value) : Bool :=
  match e.1 with
  | .text name => !optionNames.contains name
  | _          => true

theorem withOption?_eq_none_iff {naming : Environment.Naming} {name : String} {v : Value} :
    withOption? naming name v = none ↔ name ∉ optionNames := by
  unfold withOption?
  split
  all_goals simp_all [optionNames]

/-- An entry is kept if it is for a setting. -/
theorem entries_of_withGiven? {g g' : Given} {e : Value × Value} (h : g.withGiven? e = some g') :
    g'.entries = g.entries ++ [e].filter isSetting := by
  obtain ⟨k, v⟩ := e
  rw [withGiven?] at h
  split at h
  · rename_i name hk
    obtain rfl : k = .text name := hk
    split at h
    · rename_i naming? ho
      obtain ⟨naming, -, rfl⟩ := Option.map_eq_some_iff.1 h
      have option : name ∈ optionNames := by
        by_contra hn
        cases (withOption?_eq_none_iff.2 hn).symm.trans ho
      simp [isSetting, option]
    · rename_i ho
      obtain rfl := Option.some.inj h
      simp [isSetting, withOption?_eq_none_iff.1 ho]
  · rename_i hk
    obtain rfl := Option.some.inj h
    have setting : isSetting (k, v) = true := by
      unfold isSetting
      split
      · rename_i name hn
        exact absurd hn (hk name)
      · rfl
    simp [setting]

theorem entries_of_ofEntries? {es : List (Value × Value)} {g : Given} (h : ofEntries? es = some g) :
    g.entries = inOrder (es.filter isSetting) := by
  have kept {es : List (Value × Value)} {g g' : Given} (h : es.foldlM withGiven? g = some g') :
      g'.entries = g.entries ++ es.filter isSetting := by
    induction es generalizing g with
    | nil =>
        obtain rfl := Option.some.inj h
        simp
    | cons e es ih =>
        rw [List.foldlM_cons] at h
        obtain ⟨first, hf, h⟩ := Option.bind_eq_some_iff.1 h
        rw [ih h, entries_of_withGiven? hf, List.append_assoc, ← List.filter_append]
        rfl
  obtain ⟨g', hg, rfl⟩ := Option.map_eq_some_iff.1 h
  exact congrArg inOrder (kept hg)

/-! No option has the name of a section, in whatever case: the names of options start with an
underscore. -/

theorem head_of_option {k : String} (h : k ∈ optionNames) : ∃ cs, k.toList = '_' :: cs := by
  have all : optionNames.all (fun k => k.toList.head? == some '_') = true := by decide
  have head := List.all_eq_true.1 all k h
  exact List.head?_eq_some_iff.1 (beq_iff_eq.1 head)

theorem isSetting_of_isFor {name : String} (hn : name ∈ sectionNames) {e : Value × Value}
    (h : isFor name e.1 = true) : isSetting e = true := by
  unfold isSetting
  split
  · rename_i k hk
    rw [hk, isFor, Environment.Naming.same, beq_iff_eq] at h
    have lowered : Text.lower k = Text.lower name := h
    have sections : ∀ name ∈ sectionNames, (Text.lower name).toList.head? ≠ some '_' := by decide
    simp only [Bool.not_eq_true', List.contains_eq_mem, decide_eq_false_iff_not]
    intro option
    obtain ⟨cs, hcs⟩ := head_of_option option
    have small : Text.lowerChar '_' = '_' := by decide
    apply sections name hn
    rw [← lowered, Text.lower, hcs, Text.lowerFrom]
    simp [small]
  · rfl

theorem isFor_self (name : String) : isFor name (.text name) = true := by
  simp [isFor, Environment.Naming.same]

/-- The first entry for a section. -/
def sectionOf (es : List (Value × Value)) (name : String) : Option Value :=
  (es.find? fun e => isFor name e.1).map Prod.snd

theorem find?_isFor (es : List (Value × Value)) (name : String) :
    ((es.find? fun e => isFor name e.1).map fun e => (Value.text name, e.2)) =
      (sectionOf es name).map fun v => (Value.text name, v) := by
  rw [sectionOf, Option.map_map]
  rfl

theorem field?_sections (es : List (Value × Value)) (names : List String) (name : String) :
    field? name (names.filterMap fun m => (sectionOf es m).map fun v => (Value.text m, v)) =
      if name ∈ names then sectionOf es name else none := by
  induction names with
  | nil => rfl
  | cons m names ih =>
      by_cases hm : m = name
      · subst hm
        cases hs : sectionOf es m with
        | none => simp [hs, ih]
        | some v => simp [hs]
      · have hne : Value.text m ≠ .text name := mt Value.text.inj hm
        cases hs : sectionOf es m with
        | none => simp [hs, ih, Ne.symm hm]
        | some v => simp [hs, ih, Ne.symm hm, Value.field?_cons_of_ne hne]

/-- None of the entries that are kept apart from the sections has a section's name. -/
theorem key_ne_of_rest {es : List (Value × Value)} {name : String} (hn : name ∈ sectionNames)
    {e : Value × Value} (he : e ∈ es.filter fun e => !sectionNames.any fun name => isFor name e.1) :
    e.1 ≠ .text name := by
  intro hk
  have apart := (List.mem_filter.1 he).2
  rw [Bool.not_eq_true', List.any_eq_false] at apart
  exact apart name hn (hk ▸ isFor_self name)

theorem field?_inOrder {es : List (Value × Value)} {name : String} (hn : name ∈ sectionNames) :
    field? name (inOrder es) = sectionOf es name := by
  have rest :
      field? name (es.filter fun e => !sectionNames.any fun name => isFor name e.1) = none := by
    refine Option.eq_none_iff_forall_ne_some.2 fun v hv => ?_
    exact key_ne_of_rest hn (Value.mem_of_field? hv) rfl
  simp only [inOrder, find?_isFor]
  rw [Value.field?_append, field?_sections, if_pos hn, rest, Option.or_none]

/-- **A caller gives a section** under its name, in whatever case. -/
theorem field?_of_ofEntries? {es : List (Value × Value)} {g : Given} (h : ofEntries? es = some g)
    {name : String} (hn : name ∈ sectionNames) : field? name g.entries = sectionOf es name := by
  rw [entries_of_ofEntries? h, field?_inOrder hn, sectionOf, sectionOf, List.find?_filter]
  congr 2
  funext e
  cases he : isFor name e.1 with
  | false => simp
  | true => simp [isSetting_of_isFor hn he]

theorem keysApart_inOrder {es : List (Value × Value)} (h : KeysApart es) :
    KeysApart (inOrder es) := by
  refine List.pairwise_append.2 ⟨?_, h.filter _, ?_⟩
  · refine List.pairwise_filterMap.2 ((by decide : sectionNames.Nodup).imp fun {m n} hmn => ?_)
    intro e he f hf
    obtain ⟨_, -, rfl⟩ := Option.map_eq_some_iff.1 he
    obtain ⟨_, -, rfl⟩ := Option.map_eq_some_iff.1 hf
    exact Value.text_agrees_eq_false hmn
  · intro e he f hf
    obtain ⟨name, hn, he⟩ := List.mem_filterMap.1 he
    obtain ⟨_, -, rfl⟩ := Option.map_eq_some_iff.1 he
    exact eq_false_of_ne_true fun h => key_ne_of_rest hn hf (Value.text_agrees_iff.1 h)

/-- **What a caller gives** is well keyed where all the values given are. -/
theorem wellKeyed_of_ofEntries? {es : List (Value × Value)} {g : Given} (h : ofEntries? es = some g)
    (keyed : WellKeyed (.dict es)) : WellKeyed (.dict g.entries) := by
  rw [entries_of_ofEntries? h]
  refine .dict (keysApart_inOrder (keyed.keysApart.filter _)) fun e he => ?_
  rcases List.mem_append.1 he with he | he
  · obtain ⟨name, -, he⟩ := List.mem_filterMap.1 he
    obtain ⟨f, hf, rfl⟩ := Option.map_eq_some_iff.1 he
    have hv : f.2.WellKeyed := keyed.of_mem (List.mem_filter.1 (List.mem_of_find?_eq_some hf)).1
    exact hv
  · exact keyed.of_mem (List.mem_filter.1 (List.mem_filter.1 he).1).1

end Settings.Given

end TypeCatalog
