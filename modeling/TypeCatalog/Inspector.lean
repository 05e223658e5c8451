import TypeCatalog.Element.Views
import TypeCatalog.Format.Table
import TypeCatalog.Settings
import TypeCatalog.Subtype.Tester

/-! # Inspectors

An inspector answers the questions of a scanner about types: the schema format of a type, whether
one type is below another, and what is recorded about program elements.  It holds an index, a table
of formats, and the options for subtype questions.
-/

namespace TypeCatalog

structure Inspector where
  index : ClassIndex
  formats : FormatTable
  options : Subtype.Options
  policy : Live.Policy

namespace Inspector

/-- An inspector with the built-in formats that may ask any live class. -/
def standard (index : ClassIndex) : Inspector := ⟨index, .default, .standard, .free⟩

def formatOverrides (count : Nat) : Event :=
  ⟨"inspector.format_overrides", .debug, [("count", .int count)]⟩

/-- The table that settings ask for. -/
def tableOf (s : FormatSettings) : FormatTable := FormatTable.default.withOverrides s.overrides

def optionsOf (s : ResolutionSettings) : Subtype.Options := ⟨s.reflexive, s.fallback⟩

def policyOf (s : ResolutionSettings) : Live.Policy := ⟨s.importModules, s.allowed⟩

/-- The inspector that settings ask for. -/
def ofSettings (s : Settings) (index : ClassIndex) : Inspector :=
  ⟨index, tableOf s.formats, optionsOf s.resolution, policyOf s.resolution⟩

/-- The events of setting an inspector up. -/
def setupEvents (s : Settings) : List Event :=
  if s.formats.overrides.isEmpty then [] else [formatOverrides s.formats.overrides.length]

def classify (i : Inspector) (r : TypeRef) : Except TypeFault Format := i.formats.classify r

/-- Tests whether `subject` is below `target`, asking the live classes of `p` if need be. -/
def isA {σ Obj Class : Type} (i : Inspector) (p : Live.Process σ Obj Class)
    (subject target : TypeRef) (s : σ) : Subtype.Test σ Class :=
  Subtype.test i.options (p.source i.policy) i.index subject target s

end Inspector

end TypeCatalog
