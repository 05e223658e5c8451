import TypeCatalog.Proofs.Settings.Layers
import TypeCatalog.Proofs.Settings.Rechecked

/-! # Settings — two files together

Two files that are accepted one without the other are laid over each other before they are checked.
Every setting but one is checked by itself, and so is accepted where both files give it as where one
does.  The exception is the format of a type: where the file of the project changes the schema type
and leaves the format to the file of the user, the two need not go together.

* `Format.Clash`: an entry with a schema type that does not go with the format of a lower entry.
* `Settings.accepts_together_iff`: two files are accepted together unless their formats clash.
-/

namespace TypeCatalog

open Checked Layers
open Value (KeysApart WellKeyed at? field?)

/-! ### Sources of settings -/

namespace Settings

/-- There are settings. -/
def Accepts (users : Destination.Homes) (s : Sources) : Prop :=
  ∃ settings, load users s = .ok settings

namespace Sources

/-- Neither variables nor the caller set anything. -/
structure FilesAlone (s : Sources) : Prop where
  environment : ofVariables .standard s.environment = .ok []
  given : s.given = []

/-- Where there are no variables, none sets anything. -/
theorem filesAlone_of_nil {s : Sources} (he : s.environment = []) (hg : s.given = []) :
    s.FilesAlone where
  environment := by
    have read (fields : List (String × Environment.Shape)) :
        Environment.read .standard [] fields = .ok [] := by
      induction fields with
      | nil => rfl
      | cons f fields ih =>
          have hs : Environment.section? .standard (Environment.Naming.standard.variablesOf [])
              f.1 f.2 = .nothing := rfl
          rw [Environment.read, hs]
          exact ih
    rw [he, ofVariables, read]
    rfl
  given := hg

/-- The sources without the file of the project. -/
def userOnly (s : Sources) : Sources := { s with projectFile := .absent, required := false }

/-- The sources without the file of the user. -/
def projectOnly (s : Sources) : Sources := { s with userFile := .absent }

theorem FilesAlone.mergedOf_eq {s : Sources} (h : s.FilesAlone) : mergedOf s = filesOf s := by
  have hg : givenOf s.given = .ok ⟨.standard, []⟩ := by
    rw [h.given]
    rfl
  unfold mergedOf
  rw [hg]
  cases filesOf s with
  | error e => rfl
  | ok es =>
      change (ofVariables .standard s.environment >>= _) = _
      rw [h.environment]
      rfl

theorem FilesAlone.accepts_iff {users : Destination.Homes} {s : Sources} (h : s.FilesAlone)
    {es : List (Value × Value)} (hf : filesOf s = .ok es) :
    Accepts users s ↔ (checkEntries (users.within s.environment) es).Passes := by
  simp [Accepts, load_eq_ok_iff, h.mergedOf_eq, hf, Passes]

end Sources

end Settings

/-! ### Settings that are checked by themselves -/

theorem leaf_of_word {α : Type} {asText? : Value → Option String} {ofWord? : String → Option α}
    {cause : Cause} {v : Value} (names : ∀ v s, asText? v = some s → v.IsName)
    (h : (word asText? ofWord? cause v).Passes) : v.entries? = none := by
  obtain ⟨a, ha⟩ := h
  obtain ⟨s, hs, -⟩ := word_eq_valid_iff.1 ha
  exact (names v s hs).entries?_eq_none

theorem leaf_of_switch {v : Value} (h : (switch v).Passes) : v.entries? = none := by
  cases v with
  | dict | knot => simp [Passes, switch] at h
  | _ => rfl

theorem leaf_of_list {α : Type} {check : Value → Checked α} {v : Value}
    (h : (Checked.list check v).Passes) : v.entries? = none := by
  obtain ⟨as, has⟩ := h
  obtain ⟨vs, hvs, -⟩ := list_eq_valid_iff.1 has
  by_contra mapping
  obtain ⟨es, hes⟩ := Option.ne_none_iff_exists'.1 mapping
  cases (Value.items?_eq_none_of_entries? hes).symm.trans hvs

theorem leaf_of_checkModules {v : Value} (h : (checkModules v).Passes) : v.entries? = none := by
  obtain ⟨names, h⟩ := h
  obtain ⟨texts, ht, -⟩ := andThen_eq_valid_iff.1 h
  exact leaf_of_list ⟨texts, ht⟩

theorem leaf_of_checkLevel {v : Value} (h : (checkLevel v).Passes) : v.entries? = none :=
  leaf_of_word (fun _ _ => Value.isName_of_text?) h

theorem stable_checkLevel : Stable checkLevel := stable_of_leaf fun _ => leaf_of_checkLevel

theorem stable_switch : Stable switch := stable_of_leaf fun _ => leaf_of_switch

theorem stable_list {α : Type} (check : Value → Checked α) : Stable (Checked.list check) :=
  stable_of_leaf fun _ => leaf_of_list

theorem stable_checkModules : Stable checkModules := stable_of_leaf fun _ => leaf_of_checkModules

theorem LoggingSettings.stable_check (homes : Destination.Homes) : Stable (check homes) :=
  (((stable_checkLevel.fieldOr _ _).and ((stable_list _).fieldOr _ _)).map _).record _

theorem ResolutionSettings.stable_check : Stable check :=
  (((stable_switch.fieldOr _ _).and ((stable_switch.fieldOr _ _).and
    ((stable_checkModules.fieldOr _ _).and (stable_switch.fieldOr _ _)))).map _).record _

/-! ### Formats -/

namespace Format

theorem check_eq_valid_iff {v : Value} {f : Format} :
    check v = .valid f ↔
      ∃ es, v.entries? = some es ∧ field v es "type" checkType = .valid f.type ∧
        fieldOr es "format" .none checkFormat = .valid f.format ∧ f.isCompatible = true := by
  simp only [check, andThen_eq_valid_iff, record_eq_valid_iff, map_eq_valid_iff, and_eq_valid_iff]
  refine exists_congr fun es => and_congr_right fun _ => ?_
  constructor
  · rintro ⟨g, ⟨p, hp, rfl⟩, h⟩
    split at h
    · rename_i hg
      cases h
      exact ⟨hp.1, hp.2, hg⟩
    · cases h
  · rintro ⟨ht, hf, h⟩
    exact ⟨f, ⟨(f.type, f.format), ⟨ht, hf⟩, rfl⟩, if_pos h⟩

theorem leaf_of_checkType {v : Value} (h : (checkType v).Passes) : v.entries? = none :=
  leaf_of_word (fun _ _ => Value.isName_of_asText?) h

theorem leaf_of_checkFormat {v : Value} (h : (checkFormat v).Passes) : v.entries? = none :=
  leaf_of_word (fun _ _ => Value.isName_of_asText?) h

/-- The upper value gives no format, and its schema type does not go with the format of the lower
one. -/
def Clash (lower upper : Value) : Prop :=
  ∃ fs f g, upper.entries? = some fs ∧ field? "format" fs = none ∧ check lower = .valid f ∧
    check upper = .valid g ∧ Format.isCompatible ⟨g.type, f.format⟩ = false

/-- What layered entries stand for: the schema type is the upper one, and so is the format if the
upper entry gives one. -/
def layered (upper : List (Value × Value)) (f g : Format) : Format :=
  ⟨g.type, if (field? "format" upper).isSome then g.format else f.format⟩

theorem passes_check_merge {v w : Value} {es fs : List (Value × Value)} {f g : Format}
    (hk : KeysApart fs) (hv : v.entries? = some es) (hw : w.entries? = some fs)
    (hf : check v = .valid f) (hg : check w = .valid g) :
    (check (.dict (merge es fs))).Passes ↔ (layered fs f g).isCompatible = true := by
  obtain ⟨_, hes, -, hf, -⟩ := check_eq_valid_iff.1 hf
  obtain ⟨_, hfs, ht, hg, -⟩ := check_eq_valid_iff.1 hg
  obtain rfl := Option.some.inj (hv.symm.trans hes)
  obtain rfl := Option.some.inj (hw.symm.trans hfs)
  have type : field (.dict (merge es fs)) (merge es fs) "type" checkType =
      .valid (layered fs f g).type := by
    obtain ⟨x, hx, ht⟩ := field_eq_valid_iff.1 ht
    refine field_eq_valid_iff.2 ⟨x, ?_, ht⟩
    rw [field?_merge hk, hx]
    exact congrArg some (overlay_of_leaf (leaf_of_checkType ⟨_, ht⟩))
  have format : fieldOr (merge es fs) "format" .none checkFormat =
      .valid (layered fs f g).format := by
    rw [layered]
    rcases fieldOr_eq_valid_iff.1 hg with ⟨hn, -⟩ | ⟨x, hx, hg⟩
    · have hm : field? "format" (merge es fs) = field? "format" es := by
        rw [field?_merge hk, hn]
      simp only [hn, Option.isSome_none, Bool.false_eq_true, if_false, ← hf, fieldOr, hm]
    · simp only [hx, Option.isSome_some, if_true]
      refine fieldOr_eq_valid_iff.2 (.inr ⟨x, ?_, hg⟩)
      rw [field?_merge hk, hx]
      exact congrArg some (overlay_of_leaf (leaf_of_checkFormat ⟨_, hg⟩))
  constructor
  · rintro ⟨h, hh⟩
    obtain ⟨_, hm, ht, hf, hc⟩ := check_eq_valid_iff.1 hh
    obtain rfl := Option.some.inj hm
    have hl : layered fs f g = h :=
      congrArg₂ Format.mk (valid.inj (type.symm.trans ht)) (valid.inj (format.symm.trans hf))
    exact hl ▸ hc
  · exact fun hc => ⟨layered fs f g, check_eq_valid_iff.2 ⟨_, rfl, type, format, hc⟩⟩

/-- **A format laid over another** passes unless they clash. -/
theorem passes_check_overlay {v w : Value} (ends : Ends v w) (hk : WellKeyed w)
    (hv : (check v).Passes) (hw : (check w).Passes) :
    (check (overlay (some v) w)).Passes ↔ ¬ Clash v w := by
  obtain ⟨f, hf⟩ := hv
  obtain ⟨g, hg⟩ := hw
  obtain ⟨es, hes, -, -, -⟩ := check_eq_valid_iff.1 hf
  obtain ⟨fs, hfs, -, -, hgc⟩ := check_eq_valid_iff.1 hg
  have clash : Clash v w ↔
      field? "format" fs = none ∧ Format.isCompatible ⟨g.type, f.format⟩ = false := by
    constructor
    · rintro ⟨_, f', g', hfs', hn, hf', hg', hc⟩
      obtain rfl := Option.some.inj (hfs.symm.trans hfs')
      obtain rfl := valid.inj (hf.symm.trans hf')
      obtain rfl := valid.inj (hg.symm.trans hg')
      exact ⟨hn, hc⟩
    · rintro ⟨hn, hc⟩
      exact ⟨fs, f, g, hfs, hn, hf, hg, hc⟩
  have apart := (hk.of_entries? hfs).keysApart
  rw [overlay_mappings ends hes hfs, passes_check_merge apart hes hfs hf hg, clash, layered]
  cases field? "format" fs with
  | some x => simpa using hgc
  | none => simp

end Format

/-- Layered overrides pass unless two entries for one type clash. -/
theorem passes_overrides_overlay {v w : Value} (ends : Ends v w) (hk : WellKeyed w)
    (hv : (mapping Format.check v).Passes) (hw : (mapping Format.check w).Passes) :
    (mapping Format.check (overlay (some v) w)).Passes ↔
      ∀ k e f, at? [k] v = some e → at? [k] w = some f → ¬ Format.Clash e f := by
  obtain ⟨es, hv, hes⟩ := passes_mapping.1 hv
  obtain ⟨fs, hw, hfs⟩ := passes_mapping.1 hw
  have keyed := hk.of_entries? hw
  rw [overlay_mappings ends hv hw, passes_mapping]
  simp only [Value.entries?_dict, Option.some.injEq, exists_eq_left',
    passes_entries_merge keyed.keysApart hes hfs, Value.forall_at?_cons hv hw]
  refine forall_congr' fun k => forall₂_congr fun e f => forall₂_congr fun he hf => ?_
  have names : ∀ e ∈ es, e.1.IsName := fun e he =>
    let ⟨_, hs⟩ := (passes_entries.1 hes e he).1
    Value.isName_of_asText? hs
  have name : k.IsName := Value.isName_of_lookup names he
  have hpe := (passes_entries.1 hes _ (Value.mem_of_lookup name he)).2
  have hpf := (passes_entries.1 hfs _ (Value.mem_of_lookup name hf)).2
  rw [Format.passes_check_overlay (ends.of_lookup name hv hw he hf) (keyed.of_lookup hf) hpe hpf]
  simp [at?]

namespace FormatSettings

theorem passes_check_iff {v : Value} :
    (check v).Passes ↔
      ∃ es, v.entries? = some es ∧
        (fieldOr es "overrides" standard.overrides (mapping Format.check)).Passes := by
  simp only [check, passes_record, passes_map]

/-- Layered sections pass unless two entries for one type clash. -/
theorem passes_check_overlay {v w : Value} (ends : Ends v w) (hk : WellKeyed w)
    (hv : (check v).Passes) (hw : (check w).Passes) :
    (check (overlay (some v) w)).Passes ↔
      ∀ k e f, at? ["overrides", k] v = some e → at? ["overrides", k] w = some f →
        ¬ Format.Clash e f := by
  obtain ⟨es, hv, hes⟩ := passes_check_iff.1 hv
  obtain ⟨fs, hw, hfs⟩ := passes_check_iff.1 hw
  rw [overlay_mappings ends hv hw, passes_check_iff]
  simp only [Value.entries?_dict, Option.some.injEq, exists_eq_left']
  exact passes_fieldOr_merge_iff hv hw ends (hk.of_entries? hw) hes hfs fun _ _ =>
    passes_overrides_overlay

end FormatSettings

namespace Settings

variable {homes : Destination.Homes} {es fs : List (Value × Value)}

/-- The path to the entry for a type. -/
def formatPath (key : Value) : List Value := ["formats", "overrides", key]

theorem passes_checkEntries_iff :
    (checkEntries homes es).Passes ↔
      (fieldOr es "logging" standard.logging (LoggingSettings.check homes)).Passes ∧
      (fieldOr es "resolution" standard.resolution ResolutionSettings.check).Passes ∧
      (fieldOr es "formats" standard.formats FormatSettings.check).Passes ∧
      (onlyFields sectionNames es).Passes := by
  simp only [checkEntries, checkSections, passes_map, passes_and, and_assoc]

/-- **Layered configurations** that pass pass together unless two entries for one type clash. -/
theorem passes_checkEntries_merge (ends : Ends (.dict es) (.dict fs)) (hk : WellKeyed (.dict fs))
    (hes : (checkEntries homes es).Passes) (hfs : (checkEntries homes fs).Passes) :
    (checkEntries homes (merge es fs)).Passes ↔
      ∀ key e f, at? (formatPath key) (.dict es) = some e →
        at? (formatPath key) (.dict fs) = some f → ¬ Format.Clash e f := by
  rw [passes_checkEntries_iff] at *
  obtain ⟨hle, hre, hfe, hoe⟩ := hes
  obtain ⟨hlf, hrf, hff, hof⟩ := hfs
  have hl := (LoggingSettings.stable_check homes).fieldOr _ _ es fs hk hle hlf
  have hr := ResolutionSettings.stable_check.fieldOr _ _ es fs hk hre hrf
  have ho := stable_onlyFields sectionNames es fs hk hoe hof
  simp only [hl, hr, ho, true_and, and_true]
  exact passes_fieldOr_merge_iff rfl rfl ends hk hfe hff fun _ _ =>
    FormatSettings.passes_check_overlay

/-- The entries of a mapping. -/
theorem entriesOf_dict (path : String) : entriesOf path (.document (.dict es)) = .ok es := by
  cases es <;> rfl

theorem demand_eq_ok {s : Sources} (h : s.required = true → s.projectFile.exists? = true) :
    demand s = .ok () := by
  unfold demand
  split
  · rename_i required absent
    cases (congrArg Stored.exists? absent).symm.trans (h required)
  · rename_i required unreachable
    cases (congrArg Stored.exists? unreachable).symm.trans (h required)
  · rfl

theorem filesOf_eq_layer {s : Sources} (hr : s.required = true → s.projectFile.exists? = true)
    (hu : entriesOf s.userPath s.userFile = .ok es)
    (hp : entriesOf s.projectPath s.projectFile = .ok fs) : filesOf s = layer es fs := by
  rw [filesOf, demand_eq_ok hr, hu, hp]
  rfl

theorem layer_eq_ok_iff {gs : List (Value × Value)} :
    layer es fs = .ok gs ↔ Ends (.dict es) (.dict fs) ∧ merge es fs = gs := by
  rw [← merge?_eq_some_iff, layer]
  cases merge? es fs <;> simp

theorem layer_eq_ok (ends : Ends (.dict es) (.dict fs)) : layer es fs = .ok (merge es fs) :=
  layer_eq_ok_iff.2 ⟨ends, rfl⟩

section

variable {users : Destination.Homes} {s : Sources} (alone : s.FilesAlone)

include alone

theorem accepts_userOnly_iff (user : s.userFile = .document (.dict es)) :
    Accepts users s.userOnly ↔ (checkEntries (users.within s.environment) es).Passes := by
  have alone : s.userOnly.FilesAlone := ⟨alone.environment, alone.given⟩
  have hu : entriesOf s.userPath s.userFile = .ok es := by rw [user, entriesOf_dict]
  have nothing : entriesOf s.projectPath .absent = .ok [] := rfl
  have files : filesOf s.userOnly = layer es [] :=
    filesOf_eq_layer (fun h => Bool.noConfusion h) hu nothing
  exact alone.accepts_iff files

theorem accepts_projectOnly_iff (project : s.projectFile = .document (.dict fs))
    (keyed : WellKeyed (.dict fs)) :
    Accepts users s.projectOnly ↔ (checkEntries (users.within s.environment) fs).Passes := by
  have alone : s.projectOnly.FilesAlone := ⟨alone.environment, alone.given⟩
  have hp : entriesOf s.projectPath s.projectFile = .ok fs := by rw [project, entriesOf_dict]
  have nothing : entriesOf s.userPath .absent = .ok [] := rfl
  have found : s.projectFile.exists? = true := by rw [project]; rfl
  have files : filesOf s.projectOnly = layer [] fs :=
    filesOf_eq_layer (fun _ => found) nothing hp
  rw [layer_eq_ok ends_nil, merge_nil_left keyed.keysApart] at files
  exact alone.accepts_iff files

theorem accepts_both_iff (user : s.userFile = .document (.dict es))
    (project : s.projectFile = .document (.dict fs)) (ends : Ends (.dict es) (.dict fs)) :
    Accepts users s ↔ (checkEntries (users.within s.environment) (merge es fs)).Passes := by
  have hu : entriesOf s.userPath s.userFile = .ok es := by rw [user, entriesOf_dict]
  have hp : entriesOf s.projectPath s.projectFile = .ok fs := by rw [project, entriesOf_dict]
  have found : s.projectFile.exists? = true := by rw [project]; rfl
  have files : filesOf s = layer es fs := filesOf_eq_layer (fun _ => found) hu hp
  rw [layer_eq_ok ends] at files
  exact alone.accepts_iff files

/-- **Two files** each of which is accepted without the other are accepted together unless, for some
type, the file of the project changes the schema type to one that does not go with the format that
the file of the user gives, and gives no format itself.  Laying the files over each other comes to
an end, as it does unless both hold themselves. -/
theorem accepts_together_iff (user : s.userFile = .document (.dict es))
    (project : s.projectFile = .document (.dict fs)) (keyed : WellKeyed (.dict fs))
    (ends : Ends (.dict es) (.dict fs))
    (first : Accepts users s.userOnly) (second : Accepts users s.projectOnly) :
    Accepts users s ↔
      ∀ key e f, at? (formatPath key) (.dict es) = some e →
        at? (formatPath key) (.dict fs) = some f → ¬ Format.Clash e f := by
  rw [accepts_userOnly_iff alone user] at first
  rw [accepts_projectOnly_iff alone project keyed] at second
  rw [accepts_both_iff alone user project ends]
  exact passes_checkEntries_merge ends keyed first second

end

/-! ### Files that give one format -/

/-- The configuration that gives a format for the type `a`. -/
def formatFor (entry : List (String × Value)) : List (Value × Value) :=
  [(.text "formats", .ofFields [("overrides", .ofFields [("a", .ofFields entry)])])]

/-- Two files, each of which gives a format for the type `a`. -/
def formatFiles (user project : List (String × Value)) : Sources :=
  ⟨"config.yaml", .document (.dict (formatFor user)), "typemeta.yaml",
    .document (.dict (formatFor project)), false, [], []⟩

theorem filesAlone_formatFiles (user project : List (String × Value)) :
    (formatFiles user project).FilesAlone :=
  Sources.filesAlone_of_nil rfl rfl

theorem passes_formatFor {entry : List (String × Value)} :
    (checkEntries homes (formatFor entry)).Passes ↔ (Format.check (.ofFields entry)).Passes := by
  have sections : (onlyFields sectionNames (formatFor entry)).Passes :=
    ⟨(), onlyFields_eq_valid_iff.2 (by simp [formatFor, sectionNames])⟩
  rw [passes_checkEntries_iff, and_iff_left sections]
  have name : ∃ s, (Value.text "a").asText? = some s := ⟨"a", rfl⟩
  simp [formatFor, passes_fieldOr, Value.field?_singleton, FormatSettings.passes_check_iff,
    passes_mapping, passes_entries, Value.ofFields, name]

theorem at?_formatFor {entry : List (String × Value)} {k v : Value} :
    at? (formatPath k) (.dict (formatFor entry)) = some v ↔
      .text "a" = k ∧ .ofFields entry = v := by
  simp only [formatPath, formatFor, Value.at?_cons_dict, Value.ofFields, List.map_cons,
    List.map_nil, Value.lookup_cons_self (.text _), Option.bind_some, Value.at?_nil,
    Option.bind_fun_some, Value.lookup_singleton (.text _)]

theorem ends_formatFor {lower : Value} {entry : List (String × Value)}
    (h : ∀ e ∈ entry, e.2.IsFinite) : Ends lower (.dict (formatFor entry)) :=
  ends_of_isFinite (Value.isFinite_dict (List.forall_mem_singleton.2 (Value.isFinite_dict
    (List.forall_mem_singleton.2 (Value.isFinite_dict (List.forall_mem_singleton.2
      (Value.isFinite_dict (List.forall_mem_map.2 h))))))))

/-- Where the file of the user makes a date of a text, the file of the project may leave it one. -/
theorem accepts_together_date :
    let user : List (String × Value) := [("type", .text "string"), ("format", .text "date")]
    let project : List (String × Value) := [("type", .text "string")]
    let s := formatFiles user project
    s.FilesAlone ∧ WellKeyed (.dict (formatFor project)) ∧
    Ends (.dict (formatFor user)) (.dict (formatFor project)) ∧
    Accepts ⟨"/root", []⟩ s.userOnly ∧ Accepts ⟨"/root", []⟩ s.projectOnly ∧
    Accepts ⟨"/root", []⟩ s := by
  intro user project s
  have alone : s.FilesAlone := filesAlone_formatFiles user project
  have keyed : WellKeyed (.dict (formatFor project)) :=
    .singleton (.singleton (.singleton (.singleton (.text _))))
  have hu : Format.check (.ofFields user) = .valid ⟨.string, .date⟩ := by with_unfolding_all rfl
  have hp : Format.check (.ofFields project) = .valid ⟨.string, .none⟩ := by with_unfolding_all rfl
  have first : Accepts ⟨"/root", []⟩ s.userOnly :=
    (accepts_userOnly_iff alone rfl).2 (passes_formatFor.2 ⟨_, hu⟩)
  have second : Accepts ⟨"/root", []⟩ s.projectOnly :=
    (accepts_projectOnly_iff alone rfl keyed).2 (passes_formatFor.2 ⟨_, hp⟩)
  have ends : Ends (.dict (formatFor user)) (.dict (formatFor project)) :=
    ends_formatFor (List.forall_mem_singleton.2 (Value.IsScalar.isFinite trivial))
  refine ⟨alone, keyed, ends, first, second,
    (accepts_together_iff alone rfl rfl keyed ends first second).2 ?_⟩
  intro key e f he hf
  obtain ⟨-, rfl⟩ := at?_formatFor.1 he
  obtain ⟨-, rfl⟩ := at?_formatFor.1 hf
  rintro ⟨_, f, g, -, -, hf, hg, hc⟩
  obtain rfl := valid.inj (hu.symm.trans hf)
  obtain rfl := valid.inj (hp.symm.trans hg)
  cases hc

/-- Where the file of the project makes it a number, it is still a date. -/
theorem not_accepts_together :
    let user : List (String × Value) := [("type", .text "string"), ("format", .text "date")]
    let project : List (String × Value) := [("type", .text "integer")]
    let s := formatFiles user project
    s.FilesAlone ∧ WellKeyed (.dict (formatFor project)) ∧
    Accepts ⟨"/root", []⟩ s.userOnly ∧ Accepts ⟨"/root", []⟩ s.projectOnly ∧
    ¬ Accepts ⟨"/root", []⟩ s := by
  intro user project s
  have alone : s.FilesAlone := filesAlone_formatFiles user project
  have keyed : WellKeyed (.dict (formatFor project)) :=
    .singleton (.singleton (.singleton (.singleton (.text _))))
  have hu : Format.check (.ofFields user) = .valid ⟨.string, .date⟩ := by with_unfolding_all rfl
  have hp : Format.check (.ofFields project) = .valid ⟨.integer, .none⟩ := by with_unfolding_all rfl
  have ends : Ends (.dict (formatFor user)) (.dict (formatFor project)) :=
    ends_formatFor (List.forall_mem_singleton.2 (Value.IsScalar.isFinite trivial))
  refine ⟨alone, keyed, (accepts_userOnly_iff alone rfl).2 (passes_formatFor.2 ⟨_, hu⟩),
    (accepts_projectOnly_iff alone rfl keyed).2 (passes_formatFor.2 ⟨_, hp⟩), fun together => ?_⟩
  have clash : Format.Clash (.ofFields user) (.ofFields project) :=
    ⟨_, _, _, rfl, by simp [Value.field?_cons_of_ne, project], hu, hp, rfl⟩
  have apart := (passes_checkEntries_merge ends keyed (passes_formatFor.2 ⟨_, hu⟩)
    (passes_formatFor.2 ⟨_, hp⟩)).1 ((accepts_both_iff alone rfl rfl ends).1 together)
  exact apart (.text "a") _ _ (at?_formatFor.2 ⟨rfl, rfl⟩) (at?_formatFor.2 ⟨rfl, rfl⟩) clash

end Settings

end TypeCatalog
