import TypeCatalog.Settings.Checks
import TypeCatalog.Settings.Environment

/-! # Settings — what a caller gives

A caller gives settings by name, sections in whatever case, and may change by a few options how
environment variables are named.

* `Given.ofEntries?`: the settings and the options among the values given.
-/

namespace TypeCatalog.Settings

/-- What a caller gives: settings, and the naming of variables. -/
structure Given where
  naming : Environment.Naming
  entries : List (Value × Value)

namespace Given

/-! ### Sections -/

/-- The key is the name of the section, in whatever case. -/
def isFor (name : String) (key : Value) : Bool :=
  match key with
  | .text k => Environment.Naming.standard.same k name
  | _       => false

/-- The entries with those for sections first, under the sections' own names; of several for one
section the first counts. -/
def inOrder (es : List (Value × Value)) : List (Value × Value) :=
  (sectionNames.filterMap fun name =>
    (es.find? fun e => isFor name e.1).map fun e => (Value.text name, e.2))
    ++ es.filter fun e => !sectionNames.any fun name => isFor name e.1

/-! ### Options -/

/-- Options that have nothing to do with variables. -/
def idleOptions : List String :=
  ["_nested_model_default_partial_update", "_env_file", "_env_file_encoding",
   "_env_parse_none_str", "_env_parse_enums", "_cli_prog_name", "_cli_parse_args",
   "_cli_settings_source", "_cli_parse_none_str", "_cli_hide_none_type", "_cli_avoid_json",
   "_cli_enforce_required", "_cli_use_class_docs_for_groups", "_cli_exit_on_error", "_cli_prefix",
   "_cli_flag_prefix_char", "_cli_implicit_flags", "_cli_ignore_unknown_args", "_cli_kebab_case",
   "_cli_shortcuts", "_secrets_dir"]

/-- The naming with an option set; there is none if the option cannot have the value, and the
naming stays if it has no value. -/
def withOption? (naming : Environment.Naming) (name : String) (v : Value) :
    Option (Option Environment.Naming) :=
  match name, v with
  | "_env_prefix",           .null   => some (some naming)
  | "_env_prefix",           .text s => some (some { naming with front := s })
  | "_env_prefix",           _       => some none
  | "_env_nested_delimiter", .null   => some (some naming)
  | "_env_nested_delimiter", .text s => some (some { naming with delimiter := s })
  | "_env_nested_delimiter", v       =>
      some (if v.isTruthy then none else some { naming with delimiter := "" })
  | "_env_nested_max_split", .int i  =>
      some (some { naming with mostParts := if i ≤ 0 then none else some i.toNat })
  | "_env_nested_max_split", _       => some (some naming)
  | "_case_sensitive",       .null   => some (some naming)
  | "_case_sensitive",       v       => some (some { naming with caseMatters := v.isTruthy })
  | "_env_ignore_empty",     .null   => some (some naming)
  | "_env_ignore_empty",     v       => some (some { naming with skipsEmpty := v.isTruthy })
  | name,                    _       =>
      if idleOptions.contains name then some (some naming) else none

/-- What is given with one more entry: an option, which may be one that cannot have the value, or a
setting. -/
def withGiven? (g : Given) (e : Value × Value) : Option Given :=
  match e.1 with
  | .text name =>
      match withOption? g.naming name e.2 with
      | some naming? => naming?.map fun naming => { g with naming := naming }
      | none         => some { g with entries := g.entries ++ [e] }
  | _          => some { g with entries := g.entries ++ [e] }

/-- The naming and the settings among the values given; there are none if an option has a value it
cannot have. -/
def ofEntries? (es : List (Value × Value)) : Option Given :=
  (es.foldlM withGiven? ⟨.standard, []⟩).map fun g => { g with entries := inOrder g.entries }

end Given

end TypeCatalog.Settings
