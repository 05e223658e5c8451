import TypeCatalog.Proofs.Settings.Keys
import TypeCatalog.Proofs.Settings.Together

/-! # Settings — precedence

Four places give settings: the caller, environment variables, the file of the project and the file
of the user.  They are laid over each other in two groups, the caller over the variables and the
project over the user, and then the first group over the second.  A setting comes from the first
place that gives it, key by key, with one exception: something in the file of the project that is no
mapping, where the file of the user has one, takes the place of the whole mapping, and what the file
of the user has inside is lost even if a place before them puts a mapping there again.

* `at?_overlay`: what is found at a path after laying over.
* `Places.at?`: what the four places give at a path, by precedence.
* `Settings.gives_of_load`: settings that are loaded are what the places give.
-/

namespace TypeCatalog

open Checked Layers
open Value (KeysApart WellKeyed at? field? lookup)

/-! ### Paths -/

namespace Value

variable {k : Value} {path : List Value} {v w : Value} {es fs : List (Value × Value)}

/-- Something on the way along the path is no mapping. -/
def blocks : (path : List Value) → Value → Bool
  | [],        _ => false
  | k :: path, v => v.entries?.elim true fun es => ((lookup k es).map (blocks path)).getD false

theorem blocks_cons (h : v.entries? = some es) :
    blocks (k :: path) v = ((lookup k es).map (blocks path)).getD false := by
  rw [blocks, h, Option.elim_some]

theorem blocks_cons_leaf (h : v.entries? = none) : blocks (k :: path) v = true := by
  rw [blocks, h, Option.elim_none]

theorem blocks_singleton (h : v.entries? = some es) : blocks [k] v = false := by
  rw [blocks_cons h]
  cases lookup k es <;> rfl

theorem at?_append (front back : List Value) (v : Value) :
    at? (front ++ back) v = (at? front v).bind (at? back) := by
  induction front generalizing v with
  | nil => rfl
  | cons k front ih =>
      rw [List.cons_append, at?_cons, at?_cons]
      cases v.entries? with
      | none => rfl
      | some es =>
          rw [Option.bind_some, Option.bind_some, Option.bind_assoc]
          exact Option.bind_congr fun w _ => ih w

theorem blocks_append (front back : List Value) (v : Value) :
    blocks (front ++ back) v =
      (blocks front v || ((at? front v).map (blocks back)).getD false) := by
  induction front generalizing v with
  | nil => rfl
  | cons k front ih =>
      rw [List.cons_append]
      cases hv : v.entries? with
      | none => rw [blocks_cons_leaf hv, blocks_cons_leaf hv, Bool.true_or]
      | some es =>
          rw [blocks_cons hv, blocks_cons hv, at?_cons_of_entries? hv]
          cases lookup k es with
          | none => rfl
          | some w => exact ih w

/-- The keys of a path are names. -/
def IsPath (path : List Value) : Prop := ∀ k ∈ path, k.IsName

theorem isPath_pair (m n : String) : IsPath [.text m, .text n] :=
  List.forall_mem_cons.2 ⟨.text m, List.forall_mem_singleton.2 (.text n)⟩

end Value

open Value (blocks IsPath)

namespace Layers

variable {path : List Value} {w : Value} {es fs : List (Value × Value)}

/-- One value over another: it takes its place, or both are mappings with the layered entries. -/
theorem overlay_cases {lower : Option Value} (ends : ∀ v, lower = some v → Ends v w) :
    w.entries? = none ∧ overlay lower w = w ∨
      lower.bind Value.entries? = none ∧ overlay lower w = w ∨
      ∃ v es fs, lower = some v ∧ v.entries? = some es ∧ w.entries? = some fs ∧
        overlay lower w = .dict (merge es fs) := by
  cases hw : w.entries? with
  | none => exact .inl ⟨rfl, overlay_of_leaf hw⟩
  | some fs =>
      cases hl : lower.bind Value.entries? with
      | none => exact .inr (.inl ⟨rfl, overlay_over_leaf hl⟩)
      | some es =>
          obtain ⟨v, rfl, hv⟩ := Option.bind_eq_some_iff.1 hl
          exact .inr (.inr ⟨v, es, fs, rfl, hv, rfl, overlay_mappings (ends v rfl) hv hw⟩)

/-- **What is found at a path after laying over**: what is there above, laid over what is there
below; what is below alone, unless the way to it is blocked above. -/
theorem at?_overlay {lower : Option Value} (names : IsPath path)
    (ends : ∀ v, lower = some v → Ends v w) (hw : w.WellKeyed) :
    at? path (overlay lower w) =
      match at? path w with
      | some b => some (overlay (lower.bind (at? path)) b)
      | none   => if blocks path w then none else lower.bind (at? path) := by
  induction path generalizing lower w with
  | nil => cases lower <;> rfl
  | cons k path ih =>
      obtain ⟨hk, names⟩ := List.forall_mem_cons.1 names
      rcases overlay_cases ends with ⟨leaf, same⟩ | ⟨leaf, same⟩ | ⟨v, es, fs, rfl, hv, hfs, laid⟩
      · rw [same, Value.at?_cons_eq_none leaf, Value.blocks_cons_leaf leaf]
        rfl
      · -- What is no mapping is replaced as a whole, and has nothing at a longer path.
        rw [same, bind_at?_of_leaf leaf]
        cases at? (k :: path) w <;> simp
      · have keyed := hw.of_entries? hfs
        rw [laid, Value.at?_cons_dict, Value.at?_cons_of_entries? hfs, Value.blocks_cons hfs,
          lookup_merge_of_isName hk keyed.keysApart, Option.bind_some,
          Value.at?_cons_of_entries? hv]
        cases hf : lookup k fs with
        | none => rfl
        | some b =>
            exact ih names (fun x hx => (ends v rfl).of_lookup hk hv hfs hx hf)
              (keyed.of_lookup hf)

/-- What blocks the way above blocks it after laying over. -/
theorem blocks_overlay {lower : Option Value} (names : IsPath path)
    (ends : ∀ v, lower = some v → Ends v w) (hw : w.WellKeyed) (h : blocks path w = true) :
    blocks path (overlay lower w) = true := by
  induction path generalizing lower w with
  | nil => cases h
  | cons k path ih =>
      obtain ⟨hk, names⟩ := List.forall_mem_cons.1 names
      rcases overlay_cases ends with ⟨-, same⟩ | ⟨-, same⟩ | ⟨v, es, fs, rfl, hv, hfs, laid⟩
      · rw [same, h]
      · rw [same, h]
      · have keyed := hw.of_entries? hfs
        rw [Value.blocks_cons hfs] at h
        rw [laid, Value.blocks_cons Value.entries?_dict,
          lookup_merge_of_isName hk keyed.keysApart]
        cases hf : lookup k fs with
        | none =>
            rw [hf] at h
            cases h
        | some b =>
            rw [hf] at h
            exact ih names (fun x hx => (ends v rfl).of_lookup hk hv hfs hx hf)
              (keyed.of_lookup hf) h

section

variable (names : IsPath path) (ends : Ends (.dict es) (.dict fs)) (keyed : WellKeyed (.dict fs))

include names ends keyed

theorem at?_merge :
    at? path (.dict (merge es fs)) =
      match at? path (.dict fs) with
      | some b => some (overlay (at? path (.dict es)) b)
      | none   => if blocks path (.dict fs) then none else at? path (.dict es) := by
  rw [← overlay_dict ends, at?_overlay names (fun v h => Option.some.inj h ▸ ends) keyed]
  rfl

/-- What is not blocked in both together is not blocked above. -/
theorem blocks_of_merge (clear : blocks path (.dict (merge es fs)) = false) :
    blocks path (.dict fs) = false := by
  refine eq_false_of_ne_true fun h => ?_
  rw [← overlay_dict ends,
    blocks_overlay names (fun v h => Option.some.inj h ▸ ends) keyed h] at clear
  cases clear

variable (leaf : ∀ v, at? path (.dict (merge es fs)) = some v → v.entries? = none)

include leaf

/-- Where what is found is no mapping, there is none above, for over whatever is below it would stay
one. -/
theorem leaf_of_merge {v : Value} (h : at? path (.dict fs) = some v) : v.entries? = none := by
  by_contra mapping
  obtain ⟨gs, hgs⟩ := Option.ne_none_iff_exists'.1 mapping
  obtain ⟨hs, stays⟩ := exists_entries?_overlay (at? path (.dict es)) hgs
  have found := leaf (overlay (at? path (.dict es)) v) (by rw [at?_merge names ends keyed, h])
  cases stays.symm.trans found

/-- Where what is found is no mapping, it is what is above, or else what is below. -/
theorem at?_merge_of_leaf :
    at? path (.dict (merge es fs)) =
      (at? path (.dict fs)).or (if blocks path (.dict fs) then none else at? path (.dict es)) := by
  rw [at?_merge names ends keyed]
  cases h : at? path (.dict fs) with
  | none => rfl
  | some b => exact congrArg some (overlay_of_leaf (leaf_of_merge names ends keyed leaf h))

end

end Layers

/-! ### Sections that pass -/

theorem LoggingSettings.check_eq_valid_iff {homes : Destination.Homes} {v : Value}
    {l : LoggingSettings} :
    check homes v = .valid l ↔
      ∃ es, v.entries? = some es ∧ fieldOr es "level" standard.level checkLevel = .valid l.level ∧
        fieldOr es "outputs" standard.outputs (Checked.list (OutputSettings.check homes)) =
          .valid l.outputs := by
  simp only [check, andThen_eq_valid_iff, record_eq_valid_iff, map_eq_valid_iff, and_eq_valid_iff]
  refine exists_congr fun es => and_congr_right fun _ => ?_
  constructor
  · rintro ⟨p, hp, rfl⟩
    exact hp
  · exact fun h => ⟨(l.level, l.outputs), h, rfl⟩

theorem ResolutionSettings.check_eq_valid_iff {v : Value} {r : ResolutionSettings} :
    check v = .valid r ↔
      ∃ es, v.entries? = some es ∧
        fieldOr es "runtime_fallback" standard.fallback switch = .valid r.fallback ∧
        fieldOr es "import_modules" standard.importModules switch = .valid r.importModules ∧
        fieldOr es "allowed_module_prefixes" standard.allowed checkModules = .valid r.allowed ∧
        fieldOr es "reflexive_subtypes" standard.reflexive switch = .valid r.reflexive := by
  simp only [check, andThen_eq_valid_iff, record_eq_valid_iff, map_eq_valid_iff, and_eq_valid_iff]
  refine exists_congr fun es => and_congr_right fun _ => ?_
  constructor
  · rintro ⟨p, hp, rfl⟩
    exact hp
  · exact fun h => ⟨(r.fallback, r.importModules, r.allowed, r.reflexive), h, rfl⟩

theorem FormatSettings.check_eq_valid_iff {v : Value} {f : FormatSettings} :
    check v = .valid f ↔
      ∃ es, v.entries? = some es ∧
        fieldOr es "overrides" standard.overrides (mapping Format.check) = .valid f.overrides := by
  simp only [check, andThen_eq_valid_iff, record_eq_valid_iff, map_eq_valid_iff]
  refine exists_congr fun es => and_congr_right fun _ => ?_
  constructor
  · rintro ⟨overrides, ho, rfl⟩
    exact ho
  · exact fun h => ⟨f.overrides, h, rfl⟩

/-- The sections of a configuration that passes. -/
theorem Settings.sections_of_checkEntries {homes : Destination.Homes} {es : List (Value × Value)}
    {s : Settings} (h : checkEntries homes es = .valid s) :
    fieldOr es "logging" standard.logging (LoggingSettings.check homes) = .valid s.logging ∧
      fieldOr es "resolution" standard.resolution ResolutionSettings.check = .valid s.resolution ∧
      fieldOr es "formats" standard.formats FormatSettings.check = .valid s.formats := by
  obtain ⟨p, hp, rfl⟩ := map_eq_valid_iff.1 h
  obtain ⟨q, hq, hs⟩ := map_eq_valid_iff.1 (and_eq_valid_iff.1 hp).1
  rw [← hs]
  obtain ⟨hl, hq⟩ := and_eq_valid_iff.1 hq
  exact ⟨hl, and_eq_valid_iff.1 hq⟩

/-! ### Places -/

namespace Settings

/-- The entries of the four places that give settings. -/
structure Places where
  user : List (Value × Value)
  project : List (Value × Value)
  environment : List (Value × Value)
  caller : List (Value × Value)

namespace Places

variable {p : Places} {s : Sources} {path : List Value}

/-- The entries are those of the sources: of the files, of the environment variables, and of what
the caller gives, where the name of a section may be in any case. -/
structure Of (p : Places) (s : Sources) : Prop where
  user : entriesOf s.userPath s.userFile = .ok p.user
  project : entriesOf s.projectPath s.projectFile = .ok p.project
  others : ∃ g, givenOf s.given = .ok g ∧ ofVariables g.naming s.environment = .ok p.environment ∧
    g.entries = p.caller
  caller : ∀ name ∈ sectionNames, field? name p.caller = Given.sectionOf s.given name

/-- All entries, laid over each other. -/
def merged (p : Places) : List (Value × Value) :=
  merge (merge p.user p.project) (merge p.environment p.caller)

/-- **Precedence.**  What the first place gives at a path that gives anything there: the caller, the
variables, the file of the project, the file of the user.  The last does not count if something on
the way to the path is no mapping in the file of the project. -/
def at? (p : Places) (path : List Value) : Option Value :=
  (Value.at? path (.dict p.caller)).or <| (Value.at? path (.dict p.environment)).or <|
    (Value.at? path (.dict p.project)).or <|
      if blocks path (.dict p.project) then none else Value.at? path (.dict p.user)

/-- No two keys of a mapping agree, in whatever place. -/
structure Keyed (p : Places) : Prop where
  user : WellKeyed (.dict p.user)
  project : WellKeyed (.dict p.project)
  environment : WellKeyed (.dict p.environment)
  caller : WellKeyed (.dict p.caller)

/-- Laying the places over each other comes to an end. -/
structure End (p : Places) : Prop where
  files : Ends (.dict p.user) (.dict p.project)
  upper : Ends (.dict p.environment) (.dict p.caller)
  all : Ends (.dict (merge p.user p.project)) (.dict (merge p.environment p.caller))

/-- What is no mapping in the merged entries is what the places give by precedence, if nothing
stands in the way. -/
theorem at?_merged (hp : p.Keyed) (ends : p.End) (names : IsPath path)
    (clear : blocks path (.dict p.merged) = false)
    (leaf : ∀ v, Value.at? path (.dict p.merged) = some v → v.entries? = none) :
    Value.at? path (.dict p.merged) = p.at? path := by
  have keyed := wellKeyed_merge hp.environment hp.caller
  have upper := blocks_of_merge names ends.all keyed clear
  have first := blocks_of_merge names ends.upper hp.caller upper
  have below : Value.at? path (.dict p.merged) =
      (Value.at? path (.dict (merge p.environment p.caller))).or
        (Value.at? path (.dict (merge p.user p.project))) := by
    rw [merged, at?_merge_of_leaf names ends.all keyed leaf, upper, if_neg Bool.false_ne_true]
  have above : Value.at? path (.dict (merge p.environment p.caller)) =
      (Value.at? path (.dict p.caller)).or (Value.at? path (.dict p.environment)) := by
    rw [at?_merge_of_leaf names ends.upper hp.caller
        fun v => leaf_of_merge names ends.all keyed leaf,
      first, if_neg Bool.false_ne_true]
  rw [at?, ← Option.or_assoc, ← above, below]
  cases h : Value.at? path (.dict (merge p.environment p.caller)) with
  | some b => rfl
  | none =>
      rw [h, Option.none_or] at below
      rw [below] at leaf
      exact at?_merge_of_leaf names ends.files hp.project leaf

/-- The places of sources that can be read. -/
theorem of_sources {user project environment : List (Value × Value)} {g : Given}
    (hu : entriesOf s.userPath s.userFile = .ok user)
    (hp : entriesOf s.projectPath s.projectFile = .ok project) (hg : givenOf s.given = .ok g)
    (he : ofVariables g.naming s.environment = .ok environment) :
    Of ⟨user, project, environment, g.entries⟩ s := by
  refine ⟨hu, hp, ⟨g, hg, he, rfl⟩, fun name hn => ?_⟩
  rw [givenOf] at hg
  split at hg
  · rename_i hg'
    obtain rfl := Except.ok.inj hg
    exact Given.field?_of_ofEntries? hg' hn
  · cases hg

theorem exists_of_mergedOf {es : List (Value × Value)} (h : mergedOf s = .ok es) :
    ∃ p : Places, p.Of s ∧ p.End ∧ p.merged = es := by
  obtain ⟨files, hf, h⟩ := bind_eq_ok_iff.1 h
  obtain ⟨g, hg, h⟩ := bind_eq_ok_iff.1 h
  obtain ⟨environment, he, h⟩ := bind_eq_ok_iff.1 h
  obtain ⟨upper, hl, h⟩ := bind_eq_ok_iff.1 h
  obtain ⟨-, -, hf⟩ := bind_eq_ok_iff.1 hf
  obtain ⟨user, hu, hf⟩ := bind_eq_ok_iff.1 hf
  obtain ⟨project, hp, hf⟩ := bind_eq_ok_iff.1 hf
  obtain ⟨endsFiles, rfl⟩ := layer_eq_ok_iff.1 hf
  obtain ⟨endsUpper, rfl⟩ := layer_eq_ok_iff.1 hl
  obtain ⟨endsAll, rfl⟩ := layer_eq_ok_iff.1 h
  exact ⟨_, of_sources hu hp hg he, ⟨endsFiles, endsUpper, endsAll⟩, rfl⟩

/-- The entries of a file are those of a document that is a mapping, or there are none. -/
theorem keyed_of_entriesOf {path : String} {file : Stored} {es : List (Value × Value)}
    (h : entriesOf path file = .ok es) (keyed : ∀ v, file = .document v → v.WellKeyed) :
    WellKeyed (.dict es) := by
  cases file with
  | document v =>
      rw [entriesOf, Stored.orEmpty] at h
      by_cases ht : v.isTruthy = true
      · rw [if_pos ht] at h
        split at h
        · rename_i hv
          obtain rfl := Except.ok.inj h
          exact (keyed v rfl).of_entries? hv
        · cases h
      · rw [if_neg ht] at h
        obtain rfl := Except.ok.inj h
        exact .nil
  | absent =>
      obtain rfl := Except.ok.inj h
      exact .nil
  | unreachable | directory | closed | undecodable | unreadable | unusable | endless => cases h

theorem Of.keyed (h : p.Of s) (user : ∀ v, s.userFile = .document v → v.WellKeyed)
    (project : ∀ v, s.projectFile = .document v → v.WellKeyed)
    (given : WellKeyed (.dict s.given)) : p.Keyed := by
  obtain ⟨hu, hp, ⟨g, hg, he, hc⟩, -⟩ := h
  refine ⟨keyed_of_entriesOf hu user, keyed_of_entriesOf hp project, wellKeyed_ofVariables he, ?_⟩
  rw [givenOf] at hg
  split at hg
  · rename_i g' hg'
    obtain rfl := Except.ok.inj hg
    exact hc ▸ Given.wellKeyed_of_ofEntries? hg' given
  · cases hg

end Places

/-! ### Settings -/

/-- The setting is what the check makes of what is given, or the default where nothing is. -/
def Follows {α : Type} (check : Value → Checked α) (default a : α) : Option Value → Prop
  | none   => a = default
  | some v => check v = .valid a

section

variable {α β : Type} {es : List (Value × Value)} {check : Value → Checked α} {default a : α}

theorem fieldOr_iff_follows {name : String} :
    fieldOr es name default check = .valid a ↔ Follows check default a (field? name es) := by
  rw [fieldOr_eq_valid_iff]
  cases field? name es with
  | none => simp [Follows, eq_comm]
  | some v => simp [Follows]

/-- A setting in a section that passes. -/
theorem follows_of_section {name key : String} {sectionCheck : Value → Checked β} {all s : β}
    {part : β → α} (h : fieldOr es name all sectionCheck = .valid s)
    (fields : ∀ {v s}, sectionCheck v = .valid s →
      ∃ fs, v.entries? = some fs ∧ fieldOr fs key (part all) check = .valid (part s)) :
    blocks [.text name, .text key] (.dict es) = false ∧
      Follows check (part all) (part s) (at? [.text name, .text key] (.dict es)) := by
  rw [Value.blocks_cons Value.entries?_dict, Value.at?_cons_dict]
  rcases fieldOr_eq_valid_iff.1 h with ⟨hf, rfl⟩ | ⟨v, hf, hv⟩
  · rw [field?] at hf
    rw [hf]
    exact ⟨rfl, rfl⟩
  · obtain ⟨fs, hfs, hk⟩ := fields hv
    rw [field?] at hf
    rw [hf]
    refine ⟨Value.blocks_singleton hfs, ?_⟩
    rw [Option.bind_some, Value.at?_cons_of_entries? hfs, Value.at?_nil, Option.bind_fun_some]
    exact fieldOr_iff_follows.1 hk

end

/-! ### Entries for types

An entry for a type is found under the type's name.  Where the name is given in bytes as well, the
later of the two entries counts. -/

/-- The key of the last entry with a name, or the name where there is none. -/
def keyIn (name : String) (es : List (Value × Value)) : Value :=
  ((es.reverse.find? fun e => e.1.asText? == some name).map Prod.fst).getD (.text name)

/-- The entry that a key is taken from has the name. -/
theorem asText?_of_find? {name : String} {es : List (Value × Value)} {e : Value × Value}
    (h : (es.find? fun e => e.1.asText? == some name) = some e) : e.1.asText? = some name :=
  beq_iff_eq.1 (List.find?_some (p := fun e : Value × Value => e.1.asText? == some name) h)

theorem isName_keyIn (name : String) (es : List (Value × Value)) : (keyIn name es).IsName := by
  rw [keyIn]
  cases h : es.reverse.find? fun e => e.1.asText? == some name with
  | none => exact .text name
  | some e => exact Value.isName_of_asText? (asText?_of_find? h)

/-- Where all keys are texts, the key is the name. -/
theorem keyIn_of_texts {name : String} {es : List (Value × Value)}
    (texts : ∀ e ∈ es, ∃ s, e.1 = .text s) : keyIn name es = .text name := by
  rw [keyIn]
  cases h : es.reverse.find? fun e => e.1.asText? == some name with
  | none => rfl
  | some e =>
      obtain ⟨s, hs⟩ := texts e (List.mem_reverse.1 (List.mem_of_find?_eq_some h))
      have same := asText?_of_find? h
      rw [hs] at same
      exact hs.trans (congrArg Value.text (Option.some.inj same))

/-- What a mapping has for a name passes as what stands under the name. -/
theorem rel_of_entries {α : Type} {check : Value → Checked α} {es : List (Value × Value)}
    {fields : Entries String α} (apart : KeysApart es) (h : entries check es = .valid fields)
    (name : String) :
    Option.Rel (fun v a => check v = .valid a) (lookup (keyIn name es) es)
      (Entries.get? name (byName es fields)) := by
  have all := entries_eq_valid_iff.1 h
  have keys : ∀ e ∈ es, e.1.IsKey := fun e he =>
    let ⟨_, hs⟩ := (passes_entries.1 ⟨fields, h⟩ e he).1
    (Value.isName_of_asText? hs).isKey
  have last := Checked.rel_find? (p := fun e : Value × Value => e.1.asText? == some name)
    (q := fun o : String × α => decide (o.1 = name)) (fun e o heo => by
      rw [heo.1, Bool.eq_iff_iff, beq_iff_eq, decide_eq_true_eq, Option.some.injEq])
    (List.rel_reverse all)
  rw [get?_byName apart h, Entries.get?_ofList, keyIn]
  generalize hv : es.reverse.find? (fun e => e.1.asText? == some name) = e? at last
  generalize fields.reverse.find? (fun o => decide (o.1 = name)) = o? at last ⊢
  cases last with
  | none =>
      have nothing : lookup (.text name) es = none := by
        refine Option.eq_none_iff_forall_ne_some.2 fun v found => ?_
        have there := List.find?_eq_none.1 hv _
          (List.mem_reverse.2 (Value.mem_of_lookup (.text name) found))
        exact there (beq_iff_eq.2 rfl)
      rw [Option.map_none, Option.getD_none, nothing]
      exact .none
  | some heo =>
      have he := List.mem_reverse.1 (List.mem_of_find?_eq_some hv)
      rw [Option.map_some, Option.getD_some, apart.lookup_of_mem keys he]
      exact .some heo.2

/-- The entry for a type in a section that passes. -/
theorem rel_of_formats {es : List (Value × Value)} {f : FormatSettings}
    (keyed : WellKeyed (.dict es))
    (h : fieldOr es "formats" standard.formats FormatSettings.check = .valid f) (name : String) :
    let key := keyIn name (((at? ["formats", "overrides"] (.dict es)).bind Value.entries?).getD [])
    blocks (formatPath key) (.dict es) = false ∧
      Option.Rel (fun v g => Format.check v = .valid g) (at? (formatPath key) (.dict es))
        (Entries.get? name f.overrides) := by
  intro key
  obtain ⟨clear, overrides⟩ : blocks ["formats", "overrides"] (.dict es) = false ∧
      Follows (mapping Format.check) [] f.overrides (at? ["formats", "overrides"] (.dict es)) :=
    follows_of_section h FormatSettings.check_eq_valid_iff.1
  -- The way to the entry is the way to the overrides, which pass as a mapping, and one step more.
  have path : formatPath key = [.text "formats", .text "overrides"] ++ [key] := rfl
  rw [path, Value.blocks_append, Value.at?_append, clear, Bool.false_or]
  cases hv : at? ["formats", "overrides"] (.dict es) with
  | none =>
      rw [hv] at overrides
      rw [show f.overrides = [] from overrides]
      exact ⟨rfl, .none⟩
  | some v =>
      rw [hv] at overrides
      obtain ⟨fs, fields, hfs, hfields, hout⟩ := mapping_eq_valid_iff.1 overrides
      have hkey : key = keyIn name fs := by
        simp only [key, hv, Option.bind_some, hfs, Option.getD_some]
      have apart := ((keyed.of_at? hv).of_entries? hfs).keysApart
      refine ⟨Value.blocks_singleton hfs, ?_⟩
      rw [Option.bind_some, Value.at?_cons_of_entries? hfs, Value.at?_nil, Option.bind_fun_some,
        hkey, ← hout]
      exact rel_of_entries apart hfields name

namespace Places

variable {p : Places}

/-- A setting that follows what is merged follows what the places give by precedence. -/
theorem follows (hp : p.Keyed) (ends : p.End) {α : Type} {check : Value → Checked α}
    {default a : α} (scalar : ∀ v, (check v).Passes → v.entries? = none) {path : List Value}
    (names : IsPath path)
    (merged : blocks path (.dict p.merged) = false ∧
      Follows check default a (Value.at? path (.dict p.merged))) :
    Follows check default a (p.at? path) := by
  obtain ⟨clear, h⟩ := merged
  rw [← at?_merged hp ends names clear]
  · exact h
  · intro v hv
    rw [hv] at h
    exact scalar v ⟨a, h⟩

/-- The key of the entry for a type: its name, or its name in bytes, if the merged entries have that
key and do not have the name after it. -/
def keyOf (p : Places) (name : String) : Value :=
  keyIn name (((Value.at? ["formats", "overrides"] (.dict p.merged)).bind Value.entries?).getD [])

/-- The places give an entry for a type, with a schema type and perhaps a format; or none. -/
def GivesFormat (p : Places) (key : Value) : Option Format → Prop
  | none   => p.at? (formatPath key) = none
  | some f =>
      (∃ v, p.at? (formatPath key ++ [.text "type"]) = some v ∧
        Format.checkType v = .valid f.type) ∧
        Follows Format.checkFormat .none f.format (p.at? (formatPath key ++ [.text "format"]))

/-- The settings are those that the places give, each by precedence. -/
structure Gives (p : Places) (homes : Destination.Homes) (s : Settings) : Prop where
  level : Follows checkLevel .info s.logging.level (p.at? ["logging", "level"])
  outputs : Follows (Checked.list (OutputSettings.check homes)) [.standard] s.logging.outputs
    (p.at? ["logging", "outputs"])
  fallback : Follows switch true s.resolution.fallback (p.at? ["resolution", "runtime_fallback"])
  importModules : Follows switch true s.resolution.importModules
    (p.at? ["resolution", "import_modules"])
  allowed : Follows checkModules [] s.resolution.allowed
    (p.at? ["resolution", "allowed_module_prefixes"])
  reflexive : Follows switch false s.resolution.reflexive
    (p.at? ["resolution", "reflexive_subtypes"])
  format (name : String) : p.GivesFormat (p.keyOf name) (Entries.get? name s.formats.overrides)

theorem isPath_formatPath {key : Value} (hk : key.IsName) : IsPath (formatPath key) :=
  List.forall_mem_cons.2 ⟨.text _, List.forall_mem_cons.2 ⟨.text _,
    List.forall_mem_singleton.2 hk⟩⟩

theorem givesFormat (hp : p.Keyed) (ends : p.End) {f : FormatSettings}
    (h : fieldOr p.merged "formats" standard.formats FormatSettings.check = .valid f)
    (name : String) : p.GivesFormat (p.keyOf name) (Entries.get? name f.overrides) := by
  have keyed : WellKeyed (.dict p.merged) :=
    wellKeyed_merge (wellKeyed_merge hp.user hp.project) (wellKeyed_merge hp.environment hp.caller)
  obtain ⟨clear, rel⟩ := rel_of_formats keyed h name
  have isName : (p.keyOf name).IsName := isName_keyIn _ _
  have names := isPath_formatPath isName
  change blocks (formatPath (p.keyOf name)) _ = false at clear
  change Option.Rel _ (Value.at? (formatPath (p.keyOf name)) _) _ at rel
  generalize p.keyOf name = key at clear rel names ⊢
  generalize hv : Value.at? (formatPath key) (.dict p.merged) = v? at rel
  generalize Entries.get? name f.overrides = g? at rel ⊢
  cases rel with
  | none => exact (at?_merged hp ends names clear (hv ▸ nofun)).symm.trans hv
  | some hg =>
      obtain ⟨fs, hfs, ht, hf, -⟩ := Format.check_eq_valid_iff.1 hg
      obtain ⟨v, htype, hcheck⟩ := field_eq_valid_iff.1 ht
      have inside (field : String) :
          blocks (formatPath key ++ [.text field]) (.dict p.merged) = false ∧
            Value.at? (formatPath key ++ [.text field]) (.dict p.merged) = field? field fs := by
        rw [Value.blocks_append, Value.at?_append, clear, hv]
        refine ⟨Value.blocks_singleton hfs, ?_⟩
        rw [Option.bind_some, Value.at?_cons_of_entries? hfs, Value.at?_nil, Option.bind_fun_some]
        rfl
      have path (field : String) : IsPath (formatPath key ++ [.text field]) :=
        List.forall_mem_append.2 ⟨names, List.forall_mem_singleton.2 (.text field)⟩
      constructor
      · refine ⟨v, ?_, hcheck⟩
        rw [← at?_merged hp ends (path "type") (inside "type").1, (inside "type").2, htype]
        rw [(inside "type").2, htype]
        rintro _ ⟨⟩
        exact Format.leaf_of_checkType ⟨_, hcheck⟩
      · refine follows hp ends (fun _ => Format.leaf_of_checkFormat) (path "format")
          ⟨(inside "format").1, ?_⟩
        rw [(inside "format").2]
        exact fieldOr_iff_follows.1 hf

end Places

/-- **Settings that are loaded** are, one by one, what the four places give by precedence. -/
theorem gives_of_load {users : Destination.Homes} {s : Sources} {settings : Settings}
    (h : load users s = .ok settings)
    (user : ∀ v, s.userFile = .document v → v.WellKeyed)
    (project : ∀ v, s.projectFile = .document v → v.WellKeyed) (given : WellKeyed (.dict s.given)) :
    ∃ p : Places, p.Of s ∧ p.Gives (users.within s.environment) settings := by
  obtain ⟨es, hm, hc⟩ := load_eq_ok_iff.1 h
  obtain ⟨p, hp, ends, rfl⟩ := Places.exists_of_mergedOf hm
  obtain ⟨logging, resolution, formats⟩ := sections_of_checkEntries hc
  have keyed := hp.keyed user project given
  -- Each setting is read from its section, and none of them passes as a mapping.
  refine ⟨p, hp, ?_, ?_, ?_, ?_, ?_, ?_, p.givesFormat keyed ends formats⟩
  · refine Places.follows keyed ends (fun _ => leaf_of_checkLevel) (Value.isPath_pair _ _)
      (follows_of_section logging fun hv => ?_)
    obtain ⟨fs, hfs, level, -⟩ := LoggingSettings.check_eq_valid_iff.1 hv
    exact ⟨fs, hfs, level⟩
  · refine Places.follows keyed ends (fun _ => leaf_of_list) (Value.isPath_pair _ _)
      (follows_of_section logging fun hv => ?_)
    obtain ⟨fs, hfs, -, outputs⟩ := LoggingSettings.check_eq_valid_iff.1 hv
    exact ⟨fs, hfs, outputs⟩
  · refine Places.follows keyed ends (fun _ => leaf_of_switch) (Value.isPath_pair _ _)
      (follows_of_section resolution fun hv => ?_)
    obtain ⟨fs, hfs, fallback, -⟩ := ResolutionSettings.check_eq_valid_iff.1 hv
    exact ⟨fs, hfs, fallback⟩
  · refine Places.follows keyed ends (fun _ => leaf_of_switch) (Value.isPath_pair _ _)
      (follows_of_section resolution fun hv => ?_)
    obtain ⟨fs, hfs, -, importModules, -⟩ := ResolutionSettings.check_eq_valid_iff.1 hv
    exact ⟨fs, hfs, importModules⟩
  · refine Places.follows keyed ends (fun _ => leaf_of_checkModules) (Value.isPath_pair _ _)
      (follows_of_section resolution fun hv => ?_)
    obtain ⟨fs, hfs, -, -, allowed, -⟩ := ResolutionSettings.check_eq_valid_iff.1 hv
    exact ⟨fs, hfs, allowed⟩
  · refine Places.follows keyed ends (fun _ => leaf_of_switch) (Value.isPath_pair _ _)
      (follows_of_section resolution fun hv => ?_)
    obtain ⟨fs, hfs, -, -, -, reflexive⟩ := ResolutionSettings.check_eq_valid_iff.1 hv
    exact ⟨fs, hfs, reflexive⟩

/-! ### Settings of which the caller gives the outputs -/

/-- Two files, variables and a caller who gives some outputs of the log. -/
def withOutputs (user project : List (String × Value)) (environment : List (String × String))
    (outputs : List Value) : Sources :=
  ⟨"config.yaml", .document (.ofFields user), "typemeta.yaml", .document (.ofFields project), false,
    environment, [(.text "logging", .ofFields [("outputs", .list outputs)])]⟩

theorem givenOf_withOutputs {user project : List (String × Value)}
    {environment : List (String × String)} {outputs : List Value} :
    givenOf (withOutputs user project environment outputs).given =
      .ok ⟨.standard, (withOutputs user project environment outputs).given⟩ := by
  with_unfolding_all rfl

/-- Both files are mappings, so that the places are only laid over each other. -/
theorem mergedOf_withOutputs {user project : List (String × Value)}
    {environment : List (String × String)} {outputs : List Value} {entries : List (Value × Value)}
    (he : ofVariables .standard environment = .ok entries) :
    mergedOf (withOutputs user project environment outputs) = (do
      let files ←
        layer (user.map fun f => (.text f.1, f.2)) (project.map fun f => (.text f.1, f.2))
      let upper ← layer entries (withOutputs user project environment outputs).given
      layer files upper) := by
  have files := filesOf_eq_layer (s := withOutputs user project environment outputs)
    (fun h => Bool.noConfusion h) (entriesOf_dict _) (entriesOf_dict _)
  rw [mergedOf, files, givenOf_withOutputs]
  refine bind_congr fun files => ?_
  change (ofVariables .standard environment >>= _) = _
  rw [he]
  rfl

/-- Each place gives a setting of its own, and gives it over those after it. -/
theorem gives_of_load_each :
    let user : List (String × Value) := [("logging", .ofFields [("level", .text "ERROR")]),
      ("resolution", .ofFields [("runtime_fallback", .bool false), ("import_modules", .bool true)])]
    let project : List (String × Value) :=
      [("resolution", .ofFields [("import_modules", .bool false)])]
    let s := withOutputs user project [("TYPEMETA__LOGGING__LEVEL", "WARNING")] []
    let settings : Settings := ⟨⟨.warning, []⟩, ⟨false, false, [], false⟩, .standard⟩
    load ⟨"/root", []⟩ s = .ok settings ∧
      (∀ v, s.userFile = .document v → v.WellKeyed) ∧
      (∀ v, s.projectFile = .document v → v.WellKeyed) ∧ WellKeyed (.dict s.given) ∧
        ∃ p : Places, p.Of s ∧ p.Gives ⟨"/root", []⟩ settings := by
  intro user project s settings
  have keyedUser : ∀ v, s.userFile = .document v → v.WellKeyed := by
    rintro v ⟨⟩
    have apart : (Entries.keys user).Nodup := by decide
    have inner : (Entries.keys [("runtime_fallback", Value.bool false),
        ("import_modules", .bool true)]).Nodup := by decide
    exact .dict (Value.keysApart_ofFields apart) (List.forall_mem_map.2 (List.forall_mem_cons.2
      ⟨.singleton (.text _), List.forall_mem_singleton.2 (.dict (Value.keysApart_ofFields inner)
        (by simp [WellKeyed.bool]))⟩))
  have keyed : ∀ v, s.projectFile = .document v → v.WellKeyed := by
    rintro v ⟨⟩
    exact .singleton (.singleton (.bool _))
  have given : WellKeyed (.dict s.given) :=
    .singleton (.singleton (.list (List.forall_mem_nil _)))
  have fromVariables : ofVariables .standard s.environment =
      .ok [(.text "logging", .ofFields [("level", .text "WARNING")])] := by
    with_unfolding_all rfl
  have loads : load ⟨"/root", []⟩ s = .ok settings :=
    load_eq_ok_iff.2 ⟨[(.text "logging", .ofFields [("level", .text "WARNING"),
      ("outputs", .list [])]), (.text "resolution", .ofFields [("runtime_fallback", .bool false),
        ("import_modules", .bool false)])],
      (mergedOf_withOutputs fromVariables).trans (by with_unfolding_all rfl),
      by with_unfolding_all rfl⟩
  exact ⟨loads, keyedUser, keyed, given, gives_of_load loads keyedUser keyed given⟩

/-- What the first place gives at a path that gives anything there, whatever stands in the way in
the file of the project. -/
def Places.firstAt? (p : Places) (path : List Value) : Option Value :=
  (Value.at? path (.dict p.caller)).or <| (Value.at? path (.dict p.environment)).or <|
    (Value.at? path (.dict p.project)).or (Value.at? path (.dict p.user))

/-- Where the file of the project empties a section, the caller who sets one of its settings gets
the default of another one, not what the file of the user gives for it. -/
theorem not_first_given :
    let user : List (String × Value) := [("logging", .ofFields [("level", .text "DEBUG")])]
    let project : List (String × Value) := [("logging", .null)]
    let s := withOutputs user project [] []
    let settings : Settings := ⟨⟨.info, []⟩, .standard, .standard⟩
    load ⟨"/root", []⟩ s = .ok settings ∧
      ∃ p : Places, p.Of s ∧
        ¬ Follows checkLevel .info settings.logging.level (p.firstAt? ["logging", "level"]) := by
  intro user project s settings
  have nothing : ofVariables .standard s.environment = .ok [] :=
    (Sources.filesAlone_of_nil (s := { s with given := [] }) rfl rfl).environment
  have given : givenOf s.given = .ok ⟨.standard, s.given⟩ := @givenOf_withOutputs user project [] []
  have loads : load ⟨"/root", []⟩ s = .ok settings :=
    load_eq_ok_iff.2 ⟨[(.text "logging", .ofFields [("outputs", .list [])])],
      (mergedOf_withOutputs nothing).trans (by with_unfolding_all rfl), by with_unfolding_all rfl⟩
  refine ⟨loads, _, Places.of_sources (entriesOf_dict _) (entriesOf_dict _) given nothing, ?_⟩
  have first : Places.firstAt? ⟨user.map fun f => (.text f.1, f.2),
      project.map fun f => (.text f.1, f.2), [], s.given⟩ ["logging", "level"] =
        some (.text "DEBUG") := by
    with_unfolding_all rfl
  rw [first]
  intro h
  cases (checkLevel_name .debug).symm.trans h

end Settings

end TypeCatalog
