import TypeCatalog.Event
import TypeCatalog.Format
import TypeCatalog.Ordered

/-! # Settings

What a user can set: where and how events are logged, how subtype questions are resolved, and which
schema formats are added to the built-in ones.

* `Settings.written`: settings as the document that gives them.
-/

namespace TypeCatalog

/-- How records are written. -/
inductive Rendering where
  | json
  | console
  deriving DecidableEq, Repr

namespace Rendering

def all : List Rendering := [.json, .console]

def word : Rendering → String
  | .json    => "json"
  | .console => "console"

def ofWord? (word : String) : Option Rendering := all.find? fun r => r.word == word

end Rendering

/-- One output of the log; an output without a level has that of the log. -/
structure OutputSettings where
  rendering : Rendering
  destination : String
  level : Option Level
  deriving DecidableEq, Repr

structure LoggingSettings where
  level : Level
  outputs : List OutputSettings
  deriving DecidableEq, Repr

/-- `fallback`: ask live classes where the index has no answer; `importModules` and `allowed`: which
modules may be imported for that; `reflexive`: every type is below itself. -/
structure ResolutionSettings where
  fallback : Bool
  importModules : Bool
  allowed : List String
  reflexive : Bool
  deriving DecidableEq, Repr

/-- Formats by canonical name, layered over the built-in table. -/
structure FormatSettings where
  overrides : Entries String Format
  deriving DecidableEq, Repr

structure Settings where
  logging : LoggingSettings
  resolution : ResolutionSettings
  formats : FormatSettings
  deriving DecidableEq, Repr

/-! ### Defaults -/

def OutputSettings.standard : OutputSettings := ⟨.console, "stderr", none⟩

def LoggingSettings.standard : LoggingSettings := ⟨.info, [.standard]⟩

def ResolutionSettings.standard : ResolutionSettings := ⟨true, true, [], false⟩

def FormatSettings.standard : FormatSettings := ⟨[]⟩

def Settings.standard : Settings := ⟨.standard, .standard, .standard⟩

/-! ### Written form -/

def OutputSettings.written (o : OutputSettings) : Value :=
  .ofFields [("format", .text o.rendering.word), ("destination", .text o.destination),
    ("level", (o.level.map fun l => Value.text l.name).getD .null)]

def LoggingSettings.written (l : LoggingSettings) : Value :=
  .ofFields
    [("level", .text l.level.name), ("outputs", .list (l.outputs.map OutputSettings.written))]

/-- The document that gives one output, to standard error, and the level. -/
def LoggingSettings.single (rendering : Rendering) (level : Value) : Value :=
  .ofFields [("level", level), ("outputs", .list [.ofFields [("format", .text rendering.word)]])]

def ResolutionSettings.written (r : ResolutionSettings) : Value :=
  .ofFields [("runtime_fallback", .bool r.fallback), ("import_modules", .bool r.importModules),
    ("allowed_module_prefixes", .list (r.allowed.map .text)),
    ("reflexive_subtypes", .bool r.reflexive)]

def Format.written (f : Format) : Value :=
  .ofFields [("type", .text f.type.word), ("format", .text f.format.word)]

def FormatSettings.written (f : FormatSettings) : Value :=
  .ofFields [("overrides", .ofFields (f.overrides.map fun o => (o.1, o.2.written)))]

def Settings.written (s : Settings) : Value :=
  .ofFields [("logging", s.logging.written), ("resolution", s.resolution.written),
    ("formats", s.formats.written)]

end TypeCatalog
