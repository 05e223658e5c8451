import TypeCatalog.Value.Literal

/-! # Reports

What a caller is told about a failure: the family of operations it belongs to, a stable code, a
message, whether trying again may help, and details for programs.  Each kind of failure has one
function here that words its report.
-/

namespace TypeCatalog

/-- The part of the library a failure comes from. -/
inductive Family where
  | any
  | config
  | typeModel
  | typeNotFound
  | indexLoad
  | internal
  deriving DecidableEq, Repr

/-- Stable codes: 2xxx for configuration, 3xxx for type references, 4xxx for index snapshots and
9xxx for faults of the library itself. -/
inductive Code where
  | configParseError
  | configInvalidValue
  | configFileNotFound
  | unknownPrimitive
  | unmappedPrimitive
  | invalidTypeRef
  | typeNotFound
  | indexFileNotFound
  | indexParseError
  | indexInvalid
  | internalError
  deriving DecidableEq, Repr

namespace Code

def all : List Code :=
  [.configParseError, .configInvalidValue, .configFileNotFound, .unknownPrimitive,
   .unmappedPrimitive, .invalidTypeRef, .typeNotFound, .indexFileNotFound, .indexParseError,
   .indexInvalid, .internalError]

def number : Code → Nat
  | .configParseError   => 2001
  | .configInvalidValue => 2002
  | .configFileNotFound => 2004
  | .unknownPrimitive   => 3001
  | .unmappedPrimitive  => 3002
  | .invalidTypeRef     => 3003
  | .typeNotFound       => 3004
  | .indexFileNotFound  => 4001
  | .indexParseError    => 4002
  | .indexInvalid       => 4003
  | .internalError      => 9001

def name : Code → String
  | .configParseError   => "CONFIG_PARSE_ERROR"
  | .configInvalidValue => "CONFIG_INVALID_VALUE"
  | .configFileNotFound => "CONFIG_FILE_NOT_FOUND"
  | .unknownPrimitive   => "UNKNOWN_PRIMITIVE"
  | .unmappedPrimitive  => "UNMAPPED_PRIMITIVE"
  | .invalidTypeRef     => "INVALID_TYPE_REF"
  | .typeNotFound       => "TYPE_NOT_FOUND"
  | .indexFileNotFound  => "INDEX_FILE_NOT_FOUND"
  | .indexParseError    => "INDEX_PARSE_ERROR"
  | .indexInvalid       => "INDEX_INVALID"
  | .internalError      => "INTERNAL_ERROR"

def ofName? (name : String) : Option Code := all.find? fun c => c.name == name

end Code

structure Report where
  family : Family
  code : Code
  message : String
  retryable : Bool
  details : List (String × Value)

namespace Report

/-- The one-line form: code, name and message. -/
def line (r : Report) : String :=
  "[" ++ toString r.code.number ++ "] " ++ r.code.name ++ ": " ++ r.message

/-- A report that need not be tried again. -/
def ofDetails (family : Family) (code : Code) (message : String)
    (details : List (String × Value)) : Report :=
  ⟨family, code, message, false, details⟩

/-! ### Configuration -/

def configUnreadable (path reason : Value) : Report :=
  ofDetails .config .configParseError
    ("Failed to parse config at " ++ path.plain ++ ": " ++ reason.plain)
    [("path", path), ("reason", reason)]

/-- A setting with a value it cannot have; the details show the value as text. -/
def configInvalid (field value reason : Value) : Report :=
  ofDetails .config .configInvalidValue
    ("Invalid value for '" ++ field.plain ++ "': " ++ reason.plain)
    [("field", field), ("value", .text value.plain), ("reason", reason)]

def configMissing (path : Value) : Report :=
  ofDetails .config .configFileNotFound ("Config file not found: " ++ path.plain) [("path", path)]

/-! ### Type references -/

def unknownPrimitive (name : Value) : Report :=
  ofDetails .typeModel .unknownPrimitive ("Unknown primitive: " ++ name.plain) [("name", name)]

def unmappedPrimitive (name : Value) : Report :=
  ofDetails .typeModel .unmappedPrimitive
    ("No schema format registered for primitive: " ++ name.plain) [("name", name)]

def invalidTypeRef (text reason : Value) : Report :=
  ofDetails .typeModel .invalidTypeRef
    ("Invalid type reference '" ++ text.plain ++ "': " ++ reason.plain)
    [("text", text), ("reason", reason)]

def notLoadable (name reason : Value) : Report :=
  ofDetails .typeNotFound .typeNotFound
    ("Cannot load type " ++ name.plain ++ ": " ++ reason.plain)
    [("name", name), ("reason", reason)]

/-! ### Index snapshots -/

def indexMissing (path : Value) : Report :=
  ofDetails .indexLoad .indexFileNotFound ("Index snapshot not found: " ++ path.plain)
    [("path", path)]

def indexUnreadable (path reason : Value) : Report :=
  ofDetails .indexLoad .indexParseError
    ("Failed to parse index snapshot at " ++ path.plain ++ ": " ++ reason.plain)
    [("path", path), ("reason", reason)]

def indexInvalid (path location reason : Value) : Report :=
  ofDetails .indexLoad .indexInvalid
    ("Invalid index snapshot entry at " ++ location.plain ++ ": " ++ reason.plain)
    [("path", path), ("location", location), ("reason", reason)]

/-! ### Everything else -/

/-- A fault of the library itself, with whatever details the caller has. -/
def unexpected (reason : Value) (details : List (String × Value)) : Report :=
  ofDetails .internal .internalError ("Internal error: " ++ reason.plain) details

end Report

end TypeCatalog
