/-! # Schema formats

A schema describes data by a type and a format that narrows it.  Not every format goes with every
type; `SchemaType.formats` lists those that do.
-/

namespace TypeCatalog

inductive SchemaType where
  | string
  | number
  | integer
  | boolean
  | array
  | object
  deriving DecidableEq, Repr

inductive DataFormat where
  | none
  | int32
  | int64
  | float
  | double
  | byte
  | binary
  | date
  | dateTime
  | password
  deriving DecidableEq, Repr

namespace SchemaType

def all : List SchemaType := [.string, .number, .integer, .boolean, .array, .object]

/-- The word for a type in a schema. -/
def word : SchemaType → String
  | .string  => "string"
  | .number  => "number"
  | .integer => "integer"
  | .boolean => "boolean"
  | .array   => "array"
  | .object  => "object"

def ofWord? (word : String) : Option SchemaType := all.find? fun t => t.word == word

/-- The formats that may accompany a type. -/
def formats : SchemaType → List DataFormat
  | .string  => [.none, .byte, .binary, .date, .dateTime, .password]
  | .number  => [.none, .float, .double]
  | .integer => [.none, .int32, .int64]
  | .boolean => [.none]
  | .array   => [.none]
  | .object  => [.none]

end SchemaType

namespace DataFormat

def all : List DataFormat :=
  [.none, .int32, .int64, .float, .double, .byte, .binary, .date, .dateTime, .password]

/-- The word for a format in settings. -/
def word : DataFormat → String
  | .none     => "none"
  | .int32    => "int32"
  | .int64    => "int64"
  | .float    => "float"
  | .double   => "double"
  | .byte     => "byte"
  | .binary   => "binary"
  | .date     => "date"
  | .dateTime => "date-time"
  | .password => "password"

def ofWord? (word : String) : Option DataFormat := all.find? fun f => f.word == word

/-- The format as it stands in a schema, where no format is written as nothing. -/
def inSchema : DataFormat → Option String
  | .none => Option.none
  | f     => some f.word

def isPresent (f : DataFormat) : Bool := f != .none

end DataFormat

/-- A schema type with its format. -/
structure Format where
  type : SchemaType
  format : DataFormat
  deriving DecidableEq, Repr

namespace Format

/-- The format goes with the type. -/
def isCompatible (f : Format) : Bool := f.type.formats.contains f.format

def array : Format := ⟨.array, .none⟩

def object : Format := ⟨.object, .none⟩

end Format

end TypeCatalog
