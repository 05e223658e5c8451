import TypeCatalog.Proofs.Settings.Abandoned

/-! # Settings — failures that are passed on

Loading gives settings or a report of what is wrong with the configuration.  There are some failures
that are not turned into reports: a path that cannot be looked up, a directory, a file that cannot
be opened or whose bytes are no text, or a scalar that stands for nothing where a file is expected;
an option that cannot have the value given, a variable that holds no JSON, a key that is no text;
places that hold themselves, so that laying them over each other goes on for ever; a destination of
the log in a home directory that there is not, and a value too long to be written in the report
about it.

* `Given.ofEntries?_eq_none_iff`: options that cannot have the value given.
* `Environment.read_eq_error_iff`: variables that hold no JSON.
* `Settings.Escapes`: the failures that are not reports, and when loading comes to each.
* `Settings.settled_load_iff`: loading gives settings or a report unless one of them is met.
-/

namespace TypeCatalog

open Checked Layers
open Value (at? field?)

/-! ### Options -/

namespace Settings.Given

/-- An option that has to be a text, with a value that is none. -/
inductive BadOption : String → Value → Prop where
  | front {v : Value} (given : v ≠ .null) (h : ∀ s, v ≠ .text s) : BadOption "_env_prefix" v
  | delimiter {v : Value} (given : v.isTruthy = true) (h : ∀ s, v ≠ .text s) :
      BadOption "_env_nested_delimiter" v

theorem withOption?_eq_some_none_iff {naming : Environment.Naming} {name : String} {v : Value} :
    withOption? naming name v = some none ↔ BadOption name v := by
  constructor
  · intro h
    unfold withOption? at h
    split at h
    · cases h
    · cases h
    · rename_i hn ht
      exact .front hn ht
    · cases h
    · cases h
    · rename_i hn ht
      split at h
      · rename_i hv
        exact .delimiter hv ht
      · cases h
    all_goals first | cases h | (split at h <;> cases h)
  · rintro (⟨hn, ht⟩ | ⟨hv, ht⟩)
    · cases v <;> simp_all [withOption?]
    · cases v <;> simp_all [withOption?, Value.isTruthy]

theorem withGiven?_eq_none_iff {g : Given} {e : Value × Value} :
    g.withGiven? e = none ↔ ∃ name, e.1 = .text name ∧ BadOption name e.2 := by
  obtain ⟨k, v⟩ := e
  cases k with
  | text name =>
      simp only [withGiven?, Value.text.injEq, exists_eq_left',
        ← @withOption?_eq_some_none_iff g.naming]
      cases withOption? g.naming name v with
      | none => simp
      | some naming? => simp
  | _ => simp [withGiven?]

/-- **A caller gives nothing to go by** if some option cannot have the value. -/
theorem ofEntries?_eq_none_iff {es : List (Value × Value)} :
    ofEntries? es = none ↔ ∃ name v, (.text name, v) ∈ es ∧ BadOption name v := by
  -- Whether an entry is refused does not depend on what came before it.
  have fold (g : Given) :
      es.foldlM withGiven? g = none ↔ ∃ e ∈ es, ∃ name, e.1 = .text name ∧ BadOption name e.2 := by
    induction es generalizing g with
    | nil => simp
    | cons e es ih =>
        rw [List.foldlM_cons, List.exists_mem_cons_iff, ← withGiven?_eq_none_iff (g := g)]
        cases g.withGiven? e with
        | none => simp
        | some g' => simpa using ih g'
  rw [ofEntries?, Option.map_eq_none_iff, fold]
  constructor
  · rintro ⟨⟨k, v⟩, he, name, rfl, h⟩
    exact ⟨name, v, he, h⟩
  · rintro ⟨name, v, he, h⟩
    exact ⟨_, he, name, rfl, h⟩

end Settings.Given

/-! ### Variables -/

namespace Environment

variable {n : Naming} {env : Entries String String} {name : String} {shape : Shape}

/-- The variable is for a compound setting that has to be given as JSON, and its text is none. -/
def NotJson (t : Option Shape.Target) (text : String) : Prop :=
  ∃ c, t = some c ∧ c.shape.isCompound = true ∧ c.lenient = false ∧ text ≠ "" ∧
    Json.read? text = none

theorem valueOf?_eq_none_iff {t : Option Shape.Target} {text : String} :
    valueOf? t text = none ↔ NotJson t text := by
  unfold valueOf? NotJson
  cases t with
  | none => simp
  | some c =>
      by_cases hc : (c.shape.isCompound && text != "") = true
      · cases hj : Json.read? text <;> cases hl : c.lenient <;> simp_all
      · simp only [hc, if_neg, Bool.false_eq_true, not_false_eq_true]
        simp_all

/-- A variable for a part of a section that holds no JSON where it has to. -/
def BadPart (n : Naming) (name : String) (shape : Shape) (v : String × String) : Prop :=
  ∃ rest, after? (n.sectionName name ++ n.delimiter) v.1 = some rest ∧
    NotJson (Shape.follow? n.same (some ⟨shape, false⟩) (n.pathOf rest)) v.2

theorem partsOf?_eq_none_iff {es : List (Value × Value)} :
    partsOf? n name shape env es = none ↔ ∃ v ∈ env, BadPart n name shape v := by
  induction env generalizing es with
  | nil => simp [partsOf?]
  | cons v env ih =>
      obtain ⟨k, text⟩ := v
      rw [List.exists_mem_cons_iff, partsOf?]
      cases ha : after? (n.sectionName name ++ n.delimiter) k with
      | none => simp [BadPart, ha, ih]
      | some rest =>
          have bad : BadPart n name shape (k, text) ↔ valueOf?
              (Shape.follow? n.same (some ⟨shape, false⟩) (n.pathOf rest)) text = none := by
            rw [valueOf?_eq_none_iff]
            simp [BadPart, ha]
          rw [bad]
          dsimp only
          cases valueOf? (Shape.follow? n.same (some ⟨shape, false⟩) (n.pathOf rest)) text with
          | none => simp
          | some w => simp [ih]

theorem partsGiven?_eq_none_iff :
    partsGiven? n name shape env = none ↔ n.delimiter ≠ "" ∧ ∃ v ∈ env, BadPart n name shape v := by
  by_cases hd : n.delimiter = "" <;> simp [partsGiven?, hd, partsOf?_eq_none_iff]

/-- A variable for a section is malformed: the one for the whole, or, if that one gives a mapping or
there is none, one for a part. -/
inductive Malformed (n : Naming) (env : Entries String String) (name : String) (shape : Shape) :
    Prop where
  | whole {text : String} (given : env.get? (n.sectionName name) = some text)
      (h : Json.read? text = none) : Malformed n env name shape
  | part {v : String × String} (given : v ∈ env) (h : BadPart n name shape v)
      (apart : n.delimiter ≠ "") (whole : ∀ text, env.get? (n.sectionName name) = some text →
        ∃ es, Json.read? text = some (.dict es)) : Malformed n env name shape

/-- Where no variable for the whole says otherwise, those for the parts decide. -/
theorem malformed_iff_partsGiven? (whole : ∀ text, env.get? (n.sectionName name) = some text →
    ∃ es, Json.read? text = some (.dict es)) :
    Malformed n env name shape ↔ partsGiven? n name shape env = none := by
  rw [partsGiven?_eq_none_iff]
  constructor
  · rintro (⟨given, h⟩ | ⟨given, h, apart, -⟩)
    · obtain ⟨es, he⟩ := whole _ given
      cases h.symm.trans he
    · exact ⟨apart, _, given, h⟩
  · rintro ⟨apart, v, given, h⟩
    exact .part given h apart whole

theorem section?_eq_malformed_iff : section? n env name shape = .malformed ↔
    Malformed n env name shape := by
  have ofValue (v : Value) : Given.ofValue n shape v ≠ .malformed := by
    cases v <;> exact nofun
  unfold section?
  cases hw : env.get? (n.sectionName name) with
  | none =>
      rw [malformed_iff_partsGiven? (by simp [hw])]
      cases partsGiven? n name shape env with
      | none => simp
      | some es =>
          cases es with
          | nil => simp
          | cons e es => simpa using ofValue _
  | some text =>
      dsimp only
      cases hj : Json.read? text with
      | none => exact iff_of_true rfl (.whole hw hj)
      | some v =>
          by_cases hv : ∃ es, v = .dict es
          · obtain ⟨es, rfl⟩ := hv
            have whole (t : String) (ht : env.get? (n.sectionName name) = some t) :
                ∃ es, Json.read? t = some (.dict es) := by
              obtain rfl := Option.some.inj (hw.symm.trans ht)
              exact ⟨es, hj⟩
            rw [malformed_iff_partsGiven? whole]
            cases partsGiven? n name shape env with
            | none => simp
            | some fs => simpa using ofValue _
          · -- A variable for the whole that gives no mapping takes the place of all its parts.
            refine iff_of_false ?_ ?_
            · cases v with
              | dict es => exact absurd ⟨es, rfl⟩ hv
              | _ => exact ofValue _
            · rintro (⟨given, h⟩ | ⟨-, -, -, whole⟩)
              · obtain rfl := Option.some.inj (hw.symm.trans given)
                cases hj.symm.trans h
              · obtain ⟨es, he⟩ := whole text hw
                exact hv ⟨es, Option.some.inj (hj.symm.trans he)⟩

/-- The first section that has a malformed variable. -/
inductive FirstMalformed (n : Naming) (env : Entries String String) :
    List (String × Shape) → String → Prop where
  | here {name : String} {shape : Shape} {rest : List (String × Shape)}
      (h : Malformed n env name shape) : FirstMalformed n env ((name, shape) :: rest) name
  | later {s : String × Shape} {rest : List (String × Shape)} {name : String}
      (hs : ¬ Malformed n env s.1 s.2) (h : FirstMalformed n env rest name) :
      FirstMalformed n env (s :: rest) name

/-- **Reading variables fails** at the first section that has a malformed one. -/
theorem read_eq_error_iff {env : List (String × String)} {sections : List (String × Shape)} :
    read n env sections = .error name ↔ FirstMalformed n (n.variablesOf env) sections name := by
  induction sections with
  | nil => exact iff_of_false nofun nofun
  | cons s sections ih =>
      have later (hs : section? n (n.variablesOf env) s.1 s.2 ≠ .malformed) :
          FirstMalformed n (n.variablesOf env) (s :: sections) name ↔
            FirstMalformed n (n.variablesOf env) sections name := by
        rw [Ne, section?_eq_malformed_iff] at hs
        constructor
        · rintro (h | ⟨-, h⟩)
          · exact absurd h hs
          · exact h
        · exact .later hs
      rw [read]
      cases hs : section? n (n.variablesOf env) s.1 s.2 with
      | malformed =>
          rw [section?_eq_malformed_iff] at hs
          constructor
          · intro h
            obtain rfl := Except.error.inj h
            exact .here hs
          · rintro (- | ⟨h, -⟩)
            · rfl
            · exact absurd hs h
      | nothing => rw [later (by simp [hs]), ih]
      | value v =>
          rw [later (by simp [hs]), ← ih]
          cases read n env sections <;> simp [Except.map]

end Environment

/-! ### Loading -/

namespace Settings

variable {users homes : Destination.Homes} {s : Sources} {e : Failure}

/-- The failure is not a report of what is wrong with the configuration. -/
def Failure.Unreported (e : Failure) : Prop := ∀ f, e ≠ .fault f

/-- A file fails without a report: whether it is there cannot be told, it is a directory, it cannot
be opened, its bytes are no text, or the text has a scalar that stands for nothing or is never read
to its end. -/
inductive FileFails (path : String) : Stored → Failure → Prop where
  | unreachable : FileFails path .unreachable (.unreachable path)
  | directory : FileFails path .directory (.directory path)
  | closed (permitted : Bool) : FileFails path (.closed permitted) (.closed path)
  | undecodable : FileFails path .undecodable (.undecodable path)
  | scalar (b : Document.BadValue) : FileFails path (.unusable b) (.badValue b)
  | endless : FileFails path .endless .endless

theorem fileFails_iff {path : String} {file : Stored} :
    FileFails path file e ↔ entriesOf path file = .error e ∧ e.Unreported := by
  constructor
  · intro h
    cases h <;> exact ⟨rfl, nofun⟩
  · rintro ⟨h, hu⟩
    cases file with
    | absent => cases h
    | unreachable => exact Except.error.inj h ▸ .unreachable
    | directory => exact Except.error.inj h ▸ .directory
    | closed permitted => exact Except.error.inj h ▸ .closed permitted
    | undecodable => exact Except.error.inj h ▸ .undecodable
    | unreadable reason => exact absurd (Except.error.inj h).symm (hu _)
    | unusable b => exact Except.error.inj h ▸ .scalar b
    | endless => exact Except.error.inj h ▸ .endless
    | document v =>
        rw [entriesOf] at h
        split at h
        · cases h
        · exact absurd (Except.error.inj h).symm (hu _)

/-- The file of the project is there if it has to be. -/
def Sources.Found (s : Sources) : Prop := s.required = true → s.projectFile.exists? = true

/-- Two places that are laid over each other have no end: the files, what the variables and the
caller give, or the two together over the files. -/
inductive Sources.Endless (s : Sources) : Prop where
  | files {user project : List (Value × Value)} (found : s.Found)
      (hu : entriesOf s.userPath s.userFile = .ok user)
      (hp : entriesOf s.projectPath s.projectFile = .ok project)
      (h : ¬ Ends (.dict user) (.dict project)) : s.Endless
  | upper {files entries : List (Value × Value)} {g : Given} (hf : filesOf s = .ok files)
      (hg : givenOf s.given = .ok g) (hv : ofVariables g.naming s.environment = .ok entries)
      (h : ¬ Ends (.dict entries) (.dict g.entries)) : s.Endless
  | all {files entries upper : List (Value × Value)} {g : Given} (hf : filesOf s = .ok files)
      (hg : givenOf s.given = .ok g) (hv : ofVariables g.naming s.environment = .ok entries)
      (hl : layer entries g.entries = .ok upper) (h : ¬ Ends (.dict files) (.dict upper)) :
      s.Endless

/-- **The failures that are passed on**, each with what the sources have to be like for loading to
come to it.  The sources are gone through in this order, so that for each failure everything before
it has been read without one. -/
inductive Escapes (users : Destination.Homes) (s : Sources) : Failure → Prop where
  | demand (required : s.required = true) (h : s.projectFile = .unreachable) :
      Escapes users s (.unreachable s.projectPath)
  | user {e : Failure} (found : s.Found) (h : FileFails s.userPath s.userFile e) : Escapes users s e
  | project {e : Failure} {user : List (Value × Value)} (found : s.Found)
      (hu : entriesOf s.userPath s.userFile = .ok user)
      (h : FileFails s.projectPath s.projectFile e) : Escapes users s e
  | option {files : List (Value × Value)} {name : String} {v : Value} (hf : filesOf s = .ok files)
      (given : (.text name, v) ∈ s.given) (h : Given.BadOption name v) : Escapes users s .badOption
  | environment {files : List (Value × Value)} {g : Given} {name : String}
      (hf : filesOf s = .ok files) (hg : givenOf s.given = .ok g)
      (h : Environment.FirstMalformed g.naming (g.naming.variablesOf s.environment)
        Environment.Shape.sections name) : Escapes users s (.badVariable name)
  | endless (h : s.Endless) : Escapes users s .endless
  | key {es : List (Value × Value)} {k v : Value} (hm : mergedOf s = .ok es) (given : (k, v) ∈ es)
      (h : ∀ t, k ≠ .text t) : Escapes users s .keyNotText
  | home {es : List (Value × Value)} (hm : mergedOf s = .ok es)
      (keys : ∀ e ∈ es, ∃ t, e.1 = .text t) (h : Homeless (users.within s.environment) es) :
      Escapes users s (.abandoned noHome)
  | unwritten {es : List (Value × Value)} {c : Complaint} {cs : List Complaint}
      (hm : mergedOf s = .ok es) (keys : ∀ e ∈ es, ∃ t, e.1 = .text t)
      (first : checkEntries (users.within s.environment) es = .invalid c cs)
      (h : c.input.isWritable = false) : Escapes users s (.badValue .unwritten)

theorem layer_eq_error_iff {es fs : List (Value × Value)} :
    layer es fs = .error e ↔ ¬ Ends (.dict es) (.dict fs) ∧ e = .endless := by
  rw [layer, ← merge?_eq_none_iff]
  cases merge? es fs <;> simp [eq_comm]

theorem demand_eq_error_iff : demand s = .error e ↔ s.required = true ∧
    (s.projectFile = .absent ∧ e = .fault (.missing s.projectPath) ∨
      s.projectFile = .unreachable ∧ e = .unreachable s.projectPath) := by
  unfold demand
  cases s.required <;> cases s.projectFile <;> simp [eq_comm]

theorem found_of_demand (h : demand s = .ok ()) : s.Found := by
  intro required
  unfold demand at h
  rw [required] at h
  revert h
  cases s.projectFile <;> simp [Stored.exists?]

theorem Sources.Endless.mergedOf_eq (h : s.Endless) : mergedOf s = .error .endless := by
  cases h with
  | files found hu hp h =>
      rw [mergedOf, filesOf_eq_layer found hu hp, layer_eq_error_iff.2 ⟨h, rfl⟩]
      rfl
  | upper hf hg hv h =>
      simp only [mergedOf, hf, hg, hv, layer_eq_error_iff.2 ⟨h, rfl⟩, bind, Except.bind]
  | all hf hg hv hl h =>
      simp only [mergedOf, hf, hg, hv, hl, layer_eq_error_iff.2 ⟨h, rfl⟩, bind, Except.bind]

/-- What is not text among the keys, or that all of them are. -/
theorem all_isText_iff {es : List (Value × Value)} :
    (es.all fun e => isText e.1) = true ↔ ∀ e ∈ es, ∃ t, e.1 = .text t := by
  rw [List.all_eq_true]
  refine forall₂_congr fun e _ => ?_
  cases e.1 <;> simp [isText]

namespace Escapes

/-- Loading comes to each of the failures. -/
theorem load_eq (h : Escapes users s e) : load users s = .error e := by
  rw [load_eq_bind]
  cases h with
  | demand required h =>
      rw [mergedOf, filesOf, demand_eq_error_iff.2 ⟨required, .inr ⟨h, rfl⟩⟩]
      rfl
  | user found h =>
      rw [mergedOf, filesOf, demand_eq_ok found, (fileFails_iff.1 h).1]
      rfl
  | project found hu h =>
      rw [mergedOf, filesOf, demand_eq_ok found, hu, (fileFails_iff.1 h).1]
      rfl
  | endless h =>
      rw [h.mergedOf_eq]
      rfl
  | option hf given h =>
      rw [mergedOf, hf, givenOf, Given.ofEntries?_eq_none_iff.2 ⟨_, _, given, h⟩]
      rfl
  | environment hf hg h =>
      rename_i g name
      have hv : ofVariables g.naming s.environment = .error (.badVariable name) :=
        mapError_eq_error_iff.2 ⟨name, Environment.read_eq_error_iff.2 h, rfl⟩
      simp only [mergedOf, hf, hg, hv, bind, Except.bind]
  | key hm given h =>
      rw [hm]
      refine if_neg fun keys => ?_
      obtain ⟨t, ht⟩ := all_isText_iff.1 keys _ given
      exact h t ht
  | home hm keys h =>
      rw [hm]
      refine (if_pos (all_isText_iff.2 keys)).trans ?_
      rw [checkEntries_eq_abandoned_iff.2 ⟨h, rfl⟩]
      rfl
  | unwritten hm keys first h =>
      rw [hm]
      refine (if_pos (all_isText_iff.2 keys)).trans ?_
      rw [first, ofChecked, Failure.ofComplaint, h]
      rfl

theorem unreported (h : Escapes users s e) : e.Unreported := by
  cases h with
  | user found h => exact (fileFails_iff.1 h).2
  | project found hu h => exact (fileFails_iff.1 h).2
  | _ => exact nofun

/-- A failure of the merged entries is a report or one of those passed on. -/
theorem of_ofEntries {es : List (Value × Value)} (hm : mergedOf s = .ok es)
    (h : ofEntries (users.within s.environment) es = .error e) (hu : e.Unreported) :
    Escapes users s e := by
  rw [ofEntries] at h
  split at h
  · rename_i keys
    rw [all_isText_iff] at keys
    cases hc : checkEntries (users.within s.environment) es with
    | valid settings =>
        rw [hc] at h
        cases h
    | invalid c cs =>
        rw [hc] at h
        obtain rfl := Except.error.inj h
        rw [Failure.ofComplaint] at hu ⊢
        split at hu
        · exact absurd rfl (hu _)
        · rename_i hw
          rw [if_neg hw]
          exact .unwritten hm keys hc (eq_false_of_ne_true hw)
    | abandoned reason =>
        rw [hc] at h
        obtain rfl := Except.error.inj h
        obtain ⟨homeless, rfl⟩ := checkEntries_eq_abandoned_iff.1 hc
        exact .home hm keys homeless
  · rename_i keys
    obtain rfl := Except.error.inj h
    rw [all_isText_iff] at keys
    push Not at keys
    obtain ⟨⟨k, v⟩, given, hk⟩ := keys
    exact .key hm given hk

/-- Until the entries are merged, a failure is a report or one of those passed on. -/
theorem of_mergedOf (h : mergedOf s = .error e) (hu : e.Unreported) : Escapes users s e := by
  -- The files, then what the caller gives, then the variables: each step has failed or been passed.
  rcases bind_eq_error_iff.1 h with hf | ⟨files, hf, h⟩
  · rcases bind_eq_error_iff.1 hf with hd | ⟨⟨⟩, hd, hf⟩
    · obtain ⟨required, ⟨-, rfl⟩ | ⟨unreachable, rfl⟩⟩ := demand_eq_error_iff.1 hd
      · exact absurd rfl (hu _)
      · exact .demand required unreachable
    · have found := found_of_demand hd
      rcases bind_eq_error_iff.1 hf with h | ⟨user, huser, hf⟩
      · exact .user found (fileFails_iff.2 ⟨h, hu⟩)
      · rcases bind_eq_error_iff.1 hf with h | ⟨project, hproject, h⟩
        · exact .project found huser (fileFails_iff.2 ⟨h, hu⟩)
        · obtain ⟨endless, rfl⟩ := layer_eq_error_iff.1 h
          exact .endless (.files found huser hproject endless)
  · rcases bind_eq_error_iff.1 h with hg | ⟨g, hg, h⟩
    · rw [givenOf] at hg
      split at hg
      · cases hg
      · rename_i none
        obtain rfl := Except.error.inj hg
        obtain ⟨name, v, given, bad⟩ := Given.ofEntries?_eq_none_iff.1 none
        exact .option hf given bad
    · rcases bind_eq_error_iff.1 h with hv | ⟨entries, hv, h⟩
      · obtain ⟨name, hr, rfl⟩ := mapError_eq_error_iff.1 hv
        exact .environment hf hg (Environment.read_eq_error_iff.1 hr)
      · rcases bind_eq_error_iff.1 h with hl | ⟨upper, hl, h⟩
        · obtain ⟨endless, rfl⟩ := layer_eq_error_iff.1 hl
          exact .endless (.upper hf hg hv endless)
        · obtain ⟨endless, rfl⟩ := layer_eq_error_iff.1 h
          exact .endless (.all hf hg hv hl endless)

end Escapes

/-- The outcome is settings, or a report of what is wrong with the configuration. -/
def Settled (r : Except Failure Settings) : Prop :=
  (∃ settings, r = .ok settings) ∨ ∃ f : Fault, r = .error (.fault f) ∧ f.report.family = .config

/-- Every fault of a configuration is reported as one. -/
theorem settled_fault (f : Fault) : Settled (.error (.fault f)) :=
  .inr ⟨f, rfl, by cases f <;> rfl⟩

theorem not_settled_iff {r : Except Failure Settings} :
    ¬ Settled r ↔ ∃ e, r = .error e ∧ e.Unreported := by
  constructor
  · intro h
    cases r with
    | ok settings => exact absurd (.inl ⟨settings, rfl⟩) h
    | error e =>
        refine ⟨e, rfl, ?_⟩
        rintro f rfl
        exact h (settled_fault f)
  · rintro ⟨e, rfl, hu⟩ (⟨settings, h⟩ | ⟨f, h, -⟩)
    · cases h
    · exact hu f (Except.error.inj h)

/-- **Loading gives settings or a report** of what is wrong with the configuration, unless the
sources are such that one of the failures is passed on, and then it comes to that one. -/
theorem settled_load_iff (users : Destination.Homes) (s : Sources) :
    (Settled (load users s) ↔ ∀ e, ¬ Escapes users s e) ∧
      ∀ e, Escapes users s e ↔ load users s = .error e ∧ ∀ f, e ≠ .fault f := by
  have escapes_iff (e : Failure) : Escapes users s e ↔ load users s = .error e ∧ e.Unreported := by
    refine ⟨fun h => ⟨h.load_eq, h.unreported⟩, fun ⟨h, hu⟩ => ?_⟩
    rw [load_eq_bind] at h
    rcases bind_eq_error_iff.1 h with hm | ⟨es, hm, he⟩
    · exact .of_mergedOf hm hu
    · exact .of_ofEntries hm he hu
  refine ⟨?_, escapes_iff⟩
  rw [← not_iff_not, not_settled_iff]
  simp only [not_forall, not_not, escapes_iff]

/-- The configuration that has the log written to one destination. -/
def logTo (destination : String) : List (Value × Value) :=
  [(.text "logging", .ofFields
    [("outputs", .list [.ofFields [("destination", .text destination)]])])]

theorem homeless_logTo {destination : String}
    (h : Destination.ofText homes destination = .error .noHome) :
    Homeless homes (logTo destination) := by
  refine ⟨.list [.ofFields [("destination", .text destination)]], ?_, _, List.mem_singleton_self _,
    .text destination, destination, ?_, rfl, h⟩
  · simp [logTo, Value.at?_cons_dict, Value.at?_nil, Value.ofFields,
      Value.lookup_cons_self (.text _)]
  · simp [Value.at?_cons_dict, Value.at?_nil, Value.ofFields, Value.lookup_cons_self (.text _)]

/-- A well-formed document can make loading fail without a report: one that has the log written to
the home directory of a user that there is not. -/
theorem not_settled_load :
    let s : Sources := ⟨"config.yaml", .absent, "typemeta.yaml",
      .document (.dict (logTo "~nosuchuser/x")), false, [], []⟩
    load ⟨"/root", []⟩ s = .error (.abandoned noHome) ∧ ¬ Settled (load ⟨"/root", []⟩ s) := by
  intro s
  have alone : s.FilesAlone := Sources.filesAlone_of_nil rfl rfl
  have merged : mergedOf s = .ok (logTo "~nosuchuser/x") := by
    rw [alone.mergedOf_eq, filesOf_eq_layer (fun _ => rfl) rfl (entriesOf_dict _),
      layer_eq_ok ends_nil]
    exact congrArg Except.ok (merge_nil_left (List.pairwise_singleton _ _))
  have homeless : Homeless ⟨"/root", []⟩ (logTo "~nosuchuser/x") := homeless_logTo rfl
  have escapes : Escapes ⟨"/root", []⟩ s (.abandoned noHome) :=
    .home merged (by simp [logTo]) homeless
  exact ⟨escapes.load_eq, not_settled_iff.2 ⟨_, escapes.load_eq, escapes.unreported⟩⟩

end Settings

end TypeCatalog
