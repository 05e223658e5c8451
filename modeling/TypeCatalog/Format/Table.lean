import TypeCatalog.Format
import TypeCatalog.TypeRef.Canonical

/-! # Schema formats — tables of well-known types

A table gives the format of types by canonical name.  An array classifies as an array whatever it
holds, and a type that is not listed as an object; so classification fails only on a reference that
has no canonical name.
-/

namespace TypeCatalog

/-- Formats by canonical name, in the order the names were added. -/
abbrev FormatTable : Type := OrderedMap String Format

namespace FormatTable

/-- The names that share one format. -/
def group (type : SchemaType) (format : DataFormat) (names : List String) :
    Entries String Format :=
  names.map fun n => (n, ⟨type, format⟩)

def strings : Entries String Format :=
  group .string .none ["builtins.str", "collections.UserString", "io.StringIO", "typing.Text"]
  ++ group .string .byte
    ["int8", "ctypes.c_byte", "ctypes.c_int8", "char", "ctypes.c_char", "builtins.bytes",
     "builtins.bytearray"]
  ++ group .string .binary ["io.BytesIO", "typing.BinaryIO"]
  ++ group .string .password ["pydantic.SecretStr", "pydantic.SecretBytes"]

def numbers : Entries String Format :=
  group .number .none
    ["numbers.Number", "numbers.Real", "decimal.Decimal", "fractions.Fraction"]
  ++ group .number .double ["float64", "builtins.float", "ctypes.c_double", "numpy.float64"]
  ++ group .number .float ["float32", "ctypes.c_float", "numpy.float32"]

def integers : Entries String Format :=
  group .integer .none ["builtins.int", "numbers.Integral"]
  ++ group .integer .int32 ["int32", "ctypes.c_int", "ctypes.c_int32", "numpy.int32"]
  ++ group .integer .int64 ["int64", "ctypes.c_longlong", "ctypes.c_int64", "numpy.int64"]
  ++ group .integer .none ["int16", "ctypes.c_short", "ctypes.c_int16", "numpy.int16"]

def others : Entries String Format :=
  group .boolean .none ["bool8", "builtins.bool", "ctypes.c_bool", "numpy.bool_"]
  ++ group .string .date ["datetime.date"]
  ++ group .string .dateTime ["datetime.datetime", "pendulum.DateTime", "arrow.Arrow"]

/-- The built-in table. -/
def default : FormatTable := .ofList (strings ++ numbers ++ integers ++ others)

/-- The table with `overrides` layered over it: listed names keep their place. -/
def withOverrides (t : FormatTable) (overrides : Entries String Format) : FormatTable :=
  t.insertAll overrides

/-- The format of a name; an object if it is not listed. -/
def ofName (t : FormatTable) (name : String) : Format := (t.get? name).getD .object

/-- The format of the type a reference names. -/
def classify (t : FormatTable) (r : TypeRef) : Except TypeFault Format :=
  match r.kind with
  | .array => .ok .array
  | _      => r.canonicalName.map t.ofName

/-- The format of a primitive, which the table has to list. -/
def ofPrimitive (t : FormatTable) (p : Primitive) : Except TypeFault Format :=
  match t.get? p.spelling with
  | some f => .ok f
  | none   => .error (.unmappedPrimitive p.spelling)

end FormatTable

end TypeCatalog
