import TypeCatalog.Inspector
import TypeCatalog.Proofs.Format.Variables
import TypeCatalog.Proofs.Ordered
import TypeCatalog.Proofs.Settings.Rechecked

/-! # Schema formats — formats that go with their types

Every format that classification comes up with goes with its schema type.  It can come from three
places: the built-in table, an override that has been checked, and the two formats that stand in for
arrays and for names that are not listed.  A layer of overrides keeps the entries it does not
replace and adds checked ones, so the property is kept by every layer and, by induction on the
layers, holds of every table.

* `Format.exists_check_iff`: a format can pass the check of an override if it goes with its type,
  and only then.
* `FormatTable.IsCompatible`, `isCompatible_iff_classify`: the property of a table, and the same
  said of what it classifies.
* `isCompatible_withOverrides`, `isCompatible_of_layered`: one layer keeps it, and so do any number.
* `Inspector.classify_isCompatible`: so it holds under every configuration.
-/

namespace TypeCatalog

/-- A format can pass the check of an override if it goes with its type, and only then. -/
theorem Format.exists_check_iff {f : Format} :
    (∃ v, Format.check v = .valid f) ↔ f.isCompatible = true :=
  ⟨fun ⟨_, h⟩ => isCompatible_of_check h, fun h => ⟨f.written, check_written h⟩⟩

namespace FormatTable

/-- Every entry has a format that goes with its type. -/
def IsCompatible (t : FormatTable) : Prop := ∀ e ∈ t.entries, e.2.isCompatible = true

/-- The overrides have been checked. -/
def AreChecked (overrides : Entries String Format) : Prop :=
  ∀ o ∈ overrides, ∃ v, Format.check v = .valid o.2

/-- The table is the built-in one with any number of layers of checked overrides. -/
inductive Layered : FormatTable → Prop where
  | default : Layered .default
  | withOverrides {t : FormatTable} {overrides : Entries String Format} (h : Layered t)
      (checked : AreChecked overrides) : Layered (t.withOverrides overrides)

/-! ### Classification -/

theorem isCompatible_array : Format.array.isCompatible = true := rfl

theorem isCompatible_object : Format.object.isCompatible = true := rfl

/-- A listed name has a format of the table, any other is an object. -/
theorem isCompatible_ofName {t : FormatTable} (h : t.IsCompatible) (name : String) :
    (t.ofName name).isCompatible = true := by
  rw [ofName]
  cases hn : t.get? name with
  | none => exact isCompatible_object
  | some f => exact h _ (OrderedMap.get?_eq_some_iff.1 hn)

theorem classify_ofClass (t : FormatTable) (name : String) :
    t.classify (.ofClass name) = .ok (t.ofName name) :=
  t.classify_of_ne_array nofun

/-- **The same said of classification**: the entries of a table go with their types if all that it
classifies does, and only then. -/
theorem isCompatible_iff_classify {t : FormatTable} :
    t.IsCompatible ↔ ∀ r f, t.classify r = .ok f → f.isCompatible = true := by
  constructor
  · intro h r f hf
    by_cases ha : r.kind = .array
    · rw [t.classify_of_array ha] at hf
      obtain rfl := Except.ok.inj hf
      exact isCompatible_array
    · rw [t.classify_of_ne_array ha, map_eq_ok_iff] at hf
      obtain ⟨name, -, rfl⟩ := hf
      exact isCompatible_ofName h name
  · -- every entry is what the class of its name classifies as
    rintro h ⟨name, f⟩ he
    have hn : t.ofName name = f := by
      rw [ofName, OrderedMap.get?_eq_some_iff.2 he]
      rfl
    exact h (.ofClass name) f ((t.classify_ofClass name).trans (congrArg _ hn))

/-! ### Layers -/

theorem isCompatible_default : default.IsCompatible := by
  have all : ∀ e ∈ default.entries, e.2.isCompatible = true := by decide +kernel
  exact all

/-- **One layer** of checked overrides. -/
theorem isCompatible_withOverrides {t : FormatTable} (h : t.IsCompatible)
    {overrides : Entries String Format} (checked : AreChecked overrides) :
    (t.withOverrides overrides).IsCompatible := by
  intro e he
  rcases Entries.mem_putAll he with old | new
  · exact h e old
  · exact Format.exists_check_iff.1 (checked e new)

/-- **Any number of layers** of checked overrides. -/
theorem isCompatible_of_layered {t : FormatTable} (h : Layered t) : t.IsCompatible := by
  induction h with
  | default => exact isCompatible_default
  | withOverrides _ checked ih => exact isCompatible_withOverrides ih checked

end FormatTable

/-! ### Configurations -/

namespace Settings

/-- Some document passes the check as these settings. -/
def IsAccepted (s : Settings) : Prop := ∃ homes v, check homes v = .valid s

/-- Settings that are loaded have passed the check, as the document that is written for them. -/
theorem isAccepted_of_load {users : Destination.Homes} {sources : Sources} {s : Settings}
    (h : load users sources = .ok s) : s.IsAccepted := by
  obtain ⟨es, -, hs⟩ := load_eq_ok_iff.1 h
  obtain ⟨p, hp, rfl⟩ := Checked.map_eq_valid_iff.1 hs
  have proper := isProper_of_check (Checked.and_eq_valid_iff.1 hp).1
  exact ⟨users, _, check_written proper users⟩

/-- The overrides of accepted settings have been checked. -/
theorem IsAccepted.checked {s : Settings} (h : s.IsAccepted) :
    FormatTable.AreChecked s.formats.overrides := by
  obtain ⟨homes, v, h⟩ := h
  obtain ⟨es, -, h⟩ := Checked.andThen_eq_valid_iff.1 h
  exact fun o ho => Format.exists_check_iff.2 ((isProper_of_check h).formats o ho)

/-- The table that accepted settings ask for is the built-in one with one layer. -/
theorem IsAccepted.layered {s : Settings} (h : s.IsAccepted) :
    FormatTable.Layered (Inspector.tableOf s.formats) :=
  .withOverrides .default h.checked

end Settings

namespace Inspector

open FormatTable (IsCompatible Layered)

/-- **Formats go with their types.**  Whatever a reference classifies as under an accepted
configuration, and so under every configuration that is loaded, has a format that goes with its
schema type.  The same holds of every entry of the built-in table under any number of layers of
checked overrides, and of what arrays and names that are not listed classify as; and for every table
it holds of the entries if it holds of all that the table classifies, and only then. -/
theorem classify_isCompatible :
    (∀ {s : Settings}, s.IsAccepted → ∀ (index : ClassIndex) (r : TypeRef) (f : Format),
      (ofSettings s index).classify r = .ok f → f.isCompatible = true) ∧
    (∀ {users : Destination.Homes} {sources : Settings.Sources} {s : Settings},
      Settings.load users sources = .ok s → s.IsAccepted) ∧
    (∀ {t : FormatTable}, Layered t →
      t.IsCompatible ∧ ∀ r f, t.classify r = .ok f → f.isCompatible = true) ∧
    Format.array.isCompatible = true ∧ Format.object.isCompatible = true ∧
    ∀ {t : FormatTable},
      t.IsCompatible ↔ ∀ r f, t.classify r = .ok f → f.isCompatible = true := by
  have layers : ∀ {t : FormatTable}, Layered t →
      t.IsCompatible ∧ ∀ r f, t.classify r = .ok f → f.isCompatible = true := by
    intro t h
    have entries := FormatTable.isCompatible_of_layered h
    exact ⟨entries, FormatTable.isCompatible_iff_classify.1 entries⟩
  refine ⟨fun accepted index r f h => ?_, Settings.isAccepted_of_load, layers,
    FormatTable.isCompatible_array, FormatTable.isCompatible_object,
    FormatTable.isCompatible_iff_classify⟩
  exact (layers accepted.layered).2 r f h

/-- An override for integers, which replaces a built-in entry, and one for dates over it. -/
theorem classify_isCompatible_twice :
    let long : Format := ⟨.integer, .int64⟩
    let date : Format := ⟨.string, .date⟩
    let s : Settings := ⟨.standard, .standard, ⟨[("builtins.int", long)]⟩⟩
    let twice := (tableOf s.formats).withOverrides [("builtins.int", date)]
    Settings.check ⟨"/root", []⟩ s.written = .valid s ∧ s.IsAccepted ∧
    (ofSettings s .empty).classify (.ofClass "builtins.int") = .ok long ∧
    long.isCompatible = true ∧
    Layered twice ∧ twice.classify (.ofClass "builtins.int") = .ok date ∧
    date.isCompatible = true := by
  intro long date s twice
  have proper : s.IsProper :=
    ⟨LoggingSettings.isProper_standard, ResolutionSettings.isProper_standard,
      List.forall_mem_singleton.2 rfl⟩
  have checked := Settings.check_written proper ⟨"/root", []⟩
  have accepted : s.IsAccepted := ⟨_, _, checked⟩
  have first : (ofSettings s .empty).classify (.ofClass "builtins.int") = .ok long := rfl
  have second : twice.classify (.ofClass "builtins.int") = .ok date := rfl
  have layered : Layered twice := by
    refine .withOverrides accepted.layered fun o ho => ?_
    obtain rfl := List.mem_singleton.1 ho
    exact ⟨_, Format.check_written rfl⟩
  obtain ⟨configured, -, layers, -⟩ := classify_isCompatible
  exact ⟨checked, accepted, first, configured accepted .empty _ _ first, layered, second,
    (layers layered).2 _ _ second⟩

end Inspector

end TypeCatalog
