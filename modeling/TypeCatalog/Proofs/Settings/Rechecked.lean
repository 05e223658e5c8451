import TypeCatalog.Proofs.Checked
import TypeCatalog.Proofs.Outcome
import TypeCatalog.Proofs.Settings.Destination
import TypeCatalog.Proofs.Value.Fields
import TypeCatalog.Settings.Load

/-! # Settings — checked once more

Settings that were accepted are written out and checked once more.  The second check has nothing to
complain about and changes nothing: destinations are in normal form, and all else is written with
the words it is read from.

* `Settings.IsProper`: what a check makes sure of beyond the types of the settings.
* `Settings.isProper_of_check`: accepted settings are proper.
* `Settings.check_written`: proper settings are accepted in their written form, unchanged.
* `Settings.load_eq_ok_iff`: loading gives settings if the sources can be merged and pass the first
  check.
-/

namespace TypeCatalog

namespace Checked

variable {α : Type} {P : α → Prop} {check : Value → Checked α}

/-- What holds of the default and of all that passes holds of a field. -/
theorem of_fieldOr {fields : List (Value × Value)} {name : String} {default a : α}
    (h : fieldOr fields name default check = .valid a) (hd : P default)
    (hc : ∀ {v a}, check v = .valid a → P a) : P a := by
  rcases fieldOr_eq_valid_iff.1 h with ⟨-, rfl⟩ | ⟨v, -, hv⟩
  · exact hd
  · exact hc hv

theorem of_list {v : Value} {as : List α} (h : list check v = .valid as)
    (hc : ∀ {v a}, check v = .valid a → P a) : ∀ a ∈ as, P a := by
  rw [list_eq_valid_iff] at h
  obtain ⟨vs, -, h⟩ := h
  induction h with
  | nil => exact nofun
  | cons hv _ ih => exact List.forall_mem_cons.2 ⟨hc hv, ih⟩

theorem of_mapping {v : Value} {out : Entries String α} (h : mapping check v = .valid out)
    (hc : ∀ {v a}, check v = .valid a → P a) : ∀ o ∈ out, P o.2 := by
  obtain ⟨es, fields, -, hf, rfl⟩ := mapping_eq_valid_iff.1 h
  suffices all : ∀ o ∈ fields, P o.2 from fun o ho => all o (mem_of_mem_byName ho)
  rw [entries_eq_valid_iff] at hf
  clear h
  induction hf with
  | nil => exact nofun
  | cons hv _ ih => exact List.forall_mem_cons.2 ⟨hc hv.2, ih⟩

/-- A list is read back where its items are. -/
theorem list_map {f : α → Value} {as : List α} (h : ∀ a ∈ as, check (f a) = .valid a) :
    list check (.list (as.map f)) = .valid as := by
  refine list_eq_valid_iff.2 ⟨_, rfl, ?_⟩
  rw [List.forall₂_map_left_iff, List.forall₂_same]
  exact h

theorem mapping_ofFields {f : α → Value} {es : Entries String α}
    (h : ∀ e ∈ es, check (f e.2) = .valid e.2) :
    mapping check (.ofFields (es.map fun e => (e.1, f e.2))) = .valid es := by
  refine mapping_eq_valid_iff.2 ⟨_, es, rfl, entries_eq_valid_iff.2 ?_, byName_of_texts ?_⟩
  · simp only [List.map_map, List.forall₂_map_left_iff, List.forall₂_same]
    exact fun e he => ⟨rfl, h e he⟩
  · exact List.forall_mem_map.2 fun e _ => ⟨_, rfl⟩

end Checked

/-! ### Proper settings

What a check makes sure of, beyond the types of the settings. -/

/-- The destination stands for itself, whatever the home directories are. -/
def OutputSettings.IsProper (o : OutputSettings) : Prop :=
  ∀ homes, Destination.ofText homes o.destination = .ok o.destination

def LoggingSettings.IsProper (l : LoggingSettings) : Prop := ∀ o ∈ l.outputs, o.IsProper

def ResolutionSettings.IsProper (r : ResolutionSettings) : Prop :=
  r.allowed.find? isBadModule = none

def FormatSettings.IsProper (f : FormatSettings) : Prop :=
  ∀ o ∈ f.overrides, o.2.isCompatible = true

structure Settings.IsProper (s : Settings) : Prop where
  logging : s.logging.IsProper
  resolution : s.resolution.IsProper
  formats : s.formats.IsProper

theorem OutputSettings.isProper_standard : OutputSettings.standard.IsProper := fun _ => rfl

theorem LoggingSettings.isProper_standard : LoggingSettings.standard.IsProper :=
  List.forall_mem_singleton.2 OutputSettings.isProper_standard

theorem ResolutionSettings.isProper_standard : ResolutionSettings.standard.IsProper := rfl

theorem FormatSettings.isProper_standard : FormatSettings.standard.IsProper := nofun

/-! ### What is accepted is proper -/

theorem checkDestination_eq_valid_iff {homes : Destination.Homes} {v : Value} {d : String} :
    checkDestination homes v = .valid d ↔
      ∃ text, v.asText? = some text ∧ Destination.ofText homes text = .ok d := by
  simp only [checkDestination, Checked.andThen_eq_valid_iff, Checked.text_eq_valid_iff]
  refine exists_congr fun text => and_congr_right fun _ => ?_
  rcases Destination.ofText homes text with f | d'
  · cases f <;> simp [Checked.reject]
  · simp

theorem checkDestination_eq_valid {homes homes' : Destination.Homes} {v : Value} {d : String}
    (h : checkDestination homes v = .valid d) : Destination.ofText homes' d = .ok d := by
  obtain ⟨text, -, h⟩ := checkDestination_eq_valid_iff.1 h
  exact Destination.ofText_idem h homes'

theorem OutputSettings.isProper_of_check {homes : Destination.Homes} {v : Value}
    {o : OutputSettings} (h : check homes v = .valid o) : o.IsProper := by
  obtain ⟨es, -, h⟩ := Checked.andThen_eq_valid_iff.1 h
  obtain ⟨p, hp, rfl⟩ := Checked.map_eq_valid_iff.1 h
  obtain ⟨-, hp⟩ := Checked.and_eq_valid_iff.1 hp
  obtain ⟨hd, -⟩ := Checked.and_eq_valid_iff.1 hp
  exact Checked.of_fieldOr (P := fun d => ∀ homes, Destination.ofText homes d = .ok d) hd
    isProper_standard fun h _ => checkDestination_eq_valid h

theorem LoggingSettings.isProper_of_check {homes : Destination.Homes} {v : Value}
    {l : LoggingSettings} (h : check homes v = .valid l) : l.IsProper := by
  obtain ⟨es, -, h⟩ := Checked.andThen_eq_valid_iff.1 h
  obtain ⟨p, hp, rfl⟩ := Checked.map_eq_valid_iff.1 h
  obtain ⟨-, ho⟩ := Checked.and_eq_valid_iff.1 hp
  exact Checked.of_fieldOr (P := fun os : List OutputSettings => ∀ o ∈ os, o.IsProper) ho
    isProper_standard fun h => Checked.of_list h OutputSettings.isProper_of_check

theorem checkModules_eq_valid {v : Value} {names : List String}
    (h : checkModules v = .valid names) : names.find? isBadModule = none := by
  obtain ⟨texts, -, h⟩ := Checked.andThen_eq_valid_iff.1 h
  split at h
  · cases h
  · rename_i hn
    cases h
    exact hn

theorem ResolutionSettings.isProper_of_check {v : Value} {r : ResolutionSettings}
    (h : check v = .valid r) : r.IsProper := by
  obtain ⟨es, -, h⟩ := Checked.andThen_eq_valid_iff.1 h
  obtain ⟨p, hp, rfl⟩ := Checked.map_eq_valid_iff.1 h
  obtain ⟨-, hp⟩ := Checked.and_eq_valid_iff.1 hp
  obtain ⟨-, hp⟩ := Checked.and_eq_valid_iff.1 hp
  obtain ⟨ha, -⟩ := Checked.and_eq_valid_iff.1 hp
  exact Checked.of_fieldOr (P := fun names : List String => names.find? isBadModule = none) ha
    isProper_standard checkModules_eq_valid

theorem Format.isCompatible_of_check {v : Value} {f : Format} (h : check v = .valid f) :
    f.isCompatible = true := by
  obtain ⟨es, -, h⟩ := Checked.andThen_eq_valid_iff.1 h
  obtain ⟨g, -, h⟩ := Checked.andThen_eq_valid_iff.1 h
  split at h
  · rename_i hg
    cases h
    exact hg
  · cases h

theorem FormatSettings.isProper_of_check {v : Value} {f : FormatSettings}
    (h : check v = .valid f) : f.IsProper := by
  obtain ⟨es, -, h⟩ := Checked.andThen_eq_valid_iff.1 h
  obtain ⟨overrides, ho, rfl⟩ := Checked.map_eq_valid_iff.1 h
  exact Checked.of_fieldOr (P := fun os => IsProper ⟨os⟩) ho isProper_standard
    fun h => Checked.of_mapping h Format.isCompatible_of_check

/-- **Accepted settings** are proper. -/
theorem Settings.isProper_of_check {homes : Destination.Homes} {es : List (Value × Value)}
    {s : Settings} (h : checkSections homes es = .valid s) : s.IsProper := by
  obtain ⟨p, hp, rfl⟩ := Checked.map_eq_valid_iff.1 h
  obtain ⟨hl, hp⟩ := Checked.and_eq_valid_iff.1 hp
  obtain ⟨hr, hf⟩ := Checked.and_eq_valid_iff.1 hp
  constructor
  · exact Checked.of_fieldOr hl LoggingSettings.isProper_standard LoggingSettings.isProper_of_check
  · exact Checked.of_fieldOr hr ResolutionSettings.isProper_standard
      ResolutionSettings.isProper_of_check
  · exact Checked.of_fieldOr hf FormatSettings.isProper_standard FormatSettings.isProper_of_check

/-! ### What is proper is accepted as it is written -/

theorem checkLevel_name (l : Level) : checkLevel (.text l.name) = .valid l := by
  cases l <;> rfl

theorem checkRendering_word (r : Rendering) : checkRendering (.text r.word) = .valid r := by
  cases r <;> rfl

theorem Format.checkType_word (t : SchemaType) : checkType (.text t.word) = .valid t := by
  cases t <;> rfl

theorem Format.checkFormat_word (f : DataFormat) : checkFormat (.text f.word) = .valid f := by
  cases f <;> rfl

theorem OutputSettings.check_written {o : OutputSettings} (h : o.IsProper)
    (homes : Destination.Homes) : check homes o.written = .valid o := by
  obtain ⟨rendering, destination, level⟩ := o
  have hd : checkDestination homes (.text destination) = .valid destination := by
    exact checkDestination_eq_valid_iff.2 ⟨destination, rfl, h homes⟩
  have hl : Checked.nullable checkLevel ((level.map fun l => Value.text l.name).getD .null)
      = .valid level := by
    cases level with
    | none => rfl
    | some l => simp [Checked.nullable, checkLevel_name, Checked.map]
  simp [check, written, Value.ofFields, Checked.record_dict, Checked.andThen, Checked.fieldOr,
    Value.field?_cons_of_ne, checkRendering_word, hd, hl, Checked.under, Checked.and, Checked.map]

theorem LoggingSettings.check_written {l : LoggingSettings} (h : l.IsProper)
    (homes : Destination.Homes) : check homes l.written = .valid l := by
  have ho : Checked.list (OutputSettings.check homes) (.list (l.outputs.map OutputSettings.written))
      = .valid l.outputs :=
    Checked.list_map fun o ho => OutputSettings.check_written (h o ho) homes
  simp [check, written, Value.ofFields, Checked.record_dict, Checked.andThen, Checked.fieldOr,
    Value.field?_cons_of_ne, checkLevel_name, ho, Checked.under, Checked.and, Checked.map]

theorem ResolutionSettings.check_written {r : ResolutionSettings} (h : r.IsProper) :
    check r.written = .valid r := by
  have ha : checkModules (.list (r.allowed.map .text)) = .valid r.allowed := by
    have ht : Checked.list Checked.text (.list (r.allowed.map .text)) = .valid r.allowed :=
      Checked.list_map fun _ _ => rfl
    rw [checkModules, ht, Checked.andThen, h]
  simp [check, written, Value.ofFields, Checked.record_dict, Checked.andThen, Checked.fieldOr,
    Value.field?_cons_of_ne, Checked.switch, ha, Checked.under, Checked.and, Checked.map]

theorem Format.check_written {f : Format} (h : f.isCompatible = true) :
    check f.written = .valid f := by
  simp [check, written, Value.ofFields, Checked.record_dict, Checked.andThen, Checked.field,
    Checked.fieldOr, Value.field?_cons_of_ne, checkType_word, checkFormat_word, h, Checked.under,
    Checked.and, Checked.map]

theorem FormatSettings.check_written {f : FormatSettings} (h : f.IsProper) :
    check f.written = .valid f := by
  have ho : Checked.mapping Format.check (.ofFields (f.overrides.map fun o => (o.1, o.2.written)))
      = .valid f.overrides :=
    Checked.mapping_ofFields fun o ho => Format.check_written (h o ho)
  rw [check, written]
  change Checked.map _ (Checked.fieldOr [(.text "overrides", _)] "overrides" _ _) = _
  rw [Checked.fieldOr, Value.field?_cons_self]
  simp only [ho, Checked.under, Checked.map]

/-- **Proper settings** are accepted as they are written, unchanged. -/
theorem Settings.check_written {s : Settings} (h : s.IsProper) (homes : Destination.Homes) :
    check homes s.written = .valid s := by
  have hl := LoggingSettings.check_written h.logging homes
  have hr := ResolutionSettings.check_written h.resolution
  have hf := FormatSettings.check_written h.formats
  simp [check, checkSections, written, Value.ofFields, Checked.record_dict, Checked.andThen,
    Checked.fieldOr, Value.field?_cons_of_ne, hl, hr, hf, Checked.under, Checked.and, Checked.map]

/-! ### Loading -/

open Checked

namespace Settings

theorem ofChecked_eq_ok_iff {c : Checked Settings} {s : Settings} :
    ofChecked c = .ok s ↔ c = .valid s := by
  cases c <;> simp [ofChecked]

/-- Only sections are accepted, so all keys are texts. -/
theorem ofEntries_eq_ok_iff {homes : Destination.Homes} {es : List (Value × Value)}
    {s : Settings} : ofEntries homes es = .ok s ↔ checkEntries homes es = .valid s := by
  unfold ofEntries
  split
  · exact ofChecked_eq_ok_iff
  · rename_i ht
    refine ⟨nofun, fun h => absurd ?_ ht⟩
    obtain ⟨p, hp, -⟩ := map_eq_valid_iff.1 h
    have hf := onlyFields_eq_valid_iff.1 (and_eq_valid_iff.1 hp).2
    refine List.all_eq_true.2 fun e he => ?_
    obtain ⟨n, -, hn⟩ := hf e he
    rw [hn]
    rfl

/-- What was accepted is accepted once more, unchanged. -/
theorem check_of_checkEntries {homes : Destination.Homes} {es : List (Value × Value)}
    {s : Settings} (h : checkEntries homes es = .valid s) (homes' : Destination.Homes) :
    check homes' s.written = .valid s := by
  obtain ⟨p, hp, rfl⟩ := map_eq_valid_iff.1 h
  exact check_written (isProper_of_check (and_eq_valid_iff.1 hp).1) homes'

theorem ofChecked_check_written {homes : Destination.Homes} {es : List (Value × Value)}
    {s : Settings} (h : ofEntries homes es = .ok s) :
    ofChecked (check homes s.written) = .ok s :=
  ofChecked_eq_ok_iff.2 (check_of_checkEntries (ofEntries_eq_ok_iff.1 h) homes)

/-- Checking the settings once more changes nothing. -/
theorem load_eq_bind {users : Destination.Homes} {s : Sources} :
    load users s = mergedOf s >>= ofEntries (users.within s.environment) := by
  rw [load]
  refine bind_congr fun es => ?_
  cases h : ofEntries (users.within s.environment) es with
  | error e => rfl
  | ok settings => exact ofChecked_check_written h

/-- **Loading gives settings** if the sources can be merged and what they give together passes the
check. -/
theorem load_eq_ok_iff {users : Destination.Homes} {s : Sources} {settings : Settings} :
    load users s = .ok settings ↔
      ∃ es, mergedOf s = .ok es ∧
        checkEntries (users.within s.environment) es = .valid settings := by
  simp only [load_eq_bind, bind_eq_ok_iff, ofEntries_eq_ok_iff]

/-- **The second check.**  A destination that is accepted is a stream or an absolute path, and it is
accepted again, unchanged.  Settings that are accepted are accepted again in their written form,
unchanged.  Neither depends on the home directories there are by then.  So loading comes to what the
first check comes to, whatever the sources. -/
theorem load_checks_once :
    (∀ homes v d, checkDestination homes v = .valid d →
      (d ∈ Destination.streams ∨ d.toList.head? = some '/') ∧
        ∀ homes', checkDestination homes' (.text d) = .valid d) ∧
    (∀ homes es s, checkEntries homes es = .valid s → ∀ homes', check homes' s.written = .valid s) ∧
    ∀ users s, load users s = mergedOf s >>= ofEntries (users.within s.environment) := by
  refine ⟨fun homes v d h => ⟨?_, fun homes' => ?_⟩, fun homes es s h homes' => ?_, ?_⟩
  · obtain ⟨text, -, h⟩ := checkDestination_eq_valid_iff.1 h
    rcases Destination.stream_or_path h with hs | ⟨p, hn, ha, rfl⟩
    · exact .inl hs
    · exact .inr (hn.head?_toText ha)
  · exact checkDestination_eq_valid_iff.2 ⟨d, rfl, checkDestination_eq_valid h⟩
  · exact check_of_checkEntries h homes'
  · exact fun users s => load_eq_bind

/-- A home directory that is not written in normal form. -/
def looseHomes : Destination.Homes := ⟨"/home//u/", []⟩

/-- A configuration that logs to a file below the home directory. -/
def loggingTo (destination : String) : List (Value × Value) :=
  [(.text "logging",
    .ofFields [("outputs", .list [.ofFields [("destination", .text destination)]])])]

theorem load_checks_once_slashes :
    let d := "/home/u/logs/app.log"
    let s : Settings := { Settings.standard with logging := ⟨.info, [⟨.console, d, none⟩]⟩ }
    checkDestination looseHomes (.text "~/./logs//app.log/.") = .valid d ∧
      checkDestination looseHomes (.text d) = .valid d ∧
      checkEntries looseHomes (loggingTo "~/./logs//app.log/.") = .valid s ∧
      check looseHomes s.written = .valid s := by
  intro d s
  have first : checkDestination looseHomes (.text "~/./logs//app.log/.") = .valid d := by rfl
  have all : checkEntries looseHomes (loggingTo "~/./logs//app.log/.") = .valid s := by
    with_unfolding_all rfl
  obtain ⟨destinations, settings, -⟩ := load_checks_once
  have again := (destinations _ _ _ first).2 looseHomes
  exact ⟨first, again, all, settings _ _ _ all looseHomes⟩

end Settings

end TypeCatalog
