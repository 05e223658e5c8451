import TypeCatalog.Checked
import TypeCatalog.Settings
import TypeCatalog.Settings.Destination

/-! # Settings — checks

A document as settings.  Sections and settings that are missing have their defaults, and unknown
ones are passed over, except at the top of a configuration.
-/

namespace TypeCatalog

def checkLevel : Value → Checked Level :=
  Checked.word Value.text? Level.ofName? (.notOneOf (Level.all.map Level.name))

def checkRendering : Value → Checked Rendering :=
  Checked.word Value.text? Rendering.ofWord? (.notOneOf (Rendering.all.map Rendering.word))

def checkDestination (homes : Destination.Homes) (v : Value) : Checked String :=
  (Checked.text v).andThen fun s =>
    match Destination.ofText homes s with
    | .ok d          => .valid d
    | .error .noHome => .abandoned (Destination.Fault.noHome.message s)
    | .error f       => Checked.reject (.rejected (f.message s)) v

namespace OutputSettings

def check (homes : Destination.Homes) (v : Value) : Checked OutputSettings :=
  (Checked.record "LogOutputConfig" v).andThen fun es =>
    ((Checked.fieldOr es "format" standard.rendering checkRendering).and
      ((Checked.fieldOr es "destination" standard.destination (checkDestination homes)).and
        (Checked.fieldOr es "level" standard.level (Checked.nullable checkLevel)))).map
      fun p => ⟨p.1, p.2.1, p.2.2⟩

end OutputSettings

namespace LoggingSettings

def check (homes : Destination.Homes) (v : Value) : Checked LoggingSettings :=
  (Checked.record "LoggingConfig" v).andThen fun es =>
    ((Checked.fieldOr es "level" standard.level checkLevel).and
      (Checked.fieldOr es "outputs" standard.outputs
        (Checked.list (OutputSettings.check homes)))).map
      fun p => ⟨p.1, p.2⟩

end LoggingSettings

/-- A module name that is empty or has a full stop at an end. -/
def isBadModule (name : String) : Bool :=
  name == "" || name.toList.head? == some '.' || name.toList.getLast? == some '.'

def checkModules (v : Value) : Checked (List String) :=
  (Checked.list Checked.text v).andThen fun names =>
    match names.find? isBadModule with
    | some name =>
        Checked.reject
          (.rejected ("Module prefix must be a dotted name: " ++ Text.quote name)) v
    | none      => .valid names

namespace ResolutionSettings

def check (v : Value) : Checked ResolutionSettings :=
  (Checked.record "ResolutionConfig" v).andThen fun es =>
    ((Checked.fieldOr es "runtime_fallback" standard.fallback Checked.switch).and
      ((Checked.fieldOr es "import_modules" standard.importModules Checked.switch).and
        ((Checked.fieldOr es "allowed_module_prefixes" standard.allowed checkModules).and
          (Checked.fieldOr es "reflexive_subtypes" standard.reflexive Checked.switch)))).map
      fun p => ⟨p.1, p.2.1, p.2.2.1, p.2.2.2⟩

end ResolutionSettings

namespace Format

def checkType : Value → Checked SchemaType :=
  Checked.word Value.asText? SchemaType.ofWord? (.notMember (SchemaType.all.map SchemaType.word))

def checkFormat : Value → Checked DataFormat :=
  Checked.word Value.asText? DataFormat.ofWord? (.notMember (DataFormat.all.map DataFormat.word))

def incompatible (f : Format) : String :=
  "Format '" ++ f.format.word ++ "' is not valid for schema type '" ++ f.type.word ++ "'"

/-- A schema type with a format that goes with it. -/
def check (v : Value) : Checked Format :=
  (Checked.record "FormatOverride" v).andThen fun es =>
    (((Checked.field v es "type" checkType).and
      (Checked.fieldOr es "format" DataFormat.none checkFormat)).map
      fun p => Format.mk p.1 p.2).andThen fun f =>
        if f.isCompatible then .valid f else Checked.reject (.rejected f.incompatible) v

end Format

namespace FormatSettings

def check (v : Value) : Checked FormatSettings :=
  (Checked.record "FormatsConfig" v).andThen fun es =>
    (Checked.fieldOr es "overrides" standard.overrides (Checked.mapping Format.check)).map
      fun overrides => ⟨overrides⟩

end FormatSettings

namespace Settings

def sectionNames : List String := ["logging", "resolution", "formats"]

/-- The three sections among the entries of a document. -/
def checkSections (homes : Destination.Homes) (es : List (Value × Value)) : Checked Settings :=
  ((Checked.fieldOr es "logging" standard.logging (LoggingSettings.check homes)).and
    ((Checked.fieldOr es "resolution" standard.resolution ResolutionSettings.check).and
      (Checked.fieldOr es "formats" standard.formats FormatSettings.check))).map
    fun p => ⟨p.1, p.2.1, p.2.2⟩

/-- Settings; entries that are not sections are passed over. -/
def check (homes : Destination.Homes) (v : Value) : Checked Settings :=
  (Checked.record "TypeMetaConfig" v).andThen (checkSections homes)

/-- The entries of a configuration, which may hold nothing but sections. -/
def checkEntries (homes : Destination.Homes) (es : List (Value × Value)) : Checked Settings :=
  ((checkSections homes es).and (Checked.onlyFields sectionNames es)).map Prod.fst

end Settings

end TypeCatalog
