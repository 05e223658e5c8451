import TypeCatalog.Text.Dotted

/-! # Live classes — the standard ones

The classes every process has, by aspects: what each derives from, what governs it, what form its
instances have, which methods it has of its own, and what is registered with it.

* `Regime.join?`, `commonForm?`: whether classes can be bases of one class together.
* `method?`: whether a class offers a method itself, or refuses it.
-/

namespace TypeCatalog.Live

/-- What governs a class and all that derive from it: nothing in particular, the registering of
further subclasses, a check of its own instead, the making of enumerations, or the making of
fixed-width values. -/
inductive Regime where
  | plain
  | abstract
  | checked
  | enumeration
  | fixedWidth
  deriving DecidableEq, Repr

namespace Regime

/-- What is under `r` is under `s` as well. -/
def isUnder (r s : Regime) : Bool :=
  decide (r = s) || decide (s = .plain) || (decide (r = .checked) && decide (s = .abstract))

/-- The regime of what is under both; two that go separate ways cannot be had together. -/
def join? (r s : Regime) : Option Regime :=
  if r.isUnder s then some r else if s.isUnder r then some s else none

end Regime

namespace Standard

def rootName : String := "builtins.object"

/-- The class of classes. -/
def metaName : String := "builtins.type"

/-- Names in a module. -/
def within (module : String) (names : List String) : List String :=
  names.map fun n => module ++ "." ++ n

def abstracts (names : List String) : List String := within "collections.abc" names

/-! ### What derives from what -/

def collection : List String := abstracts ["Collection", "Sized", "Iterable", "Container"]

def sequence : List String := abstracts ["Sequence", "Reversible"] ++ collection

def mapping : List String := abstracts ["Mapping"] ++ collection

def complex : List String := within "numbers" ["Complex", "Number"]

def real : List String := within "numbers" ["Real"] ++ complex

def rational : List String := within "numbers" ["Rational"] ++ real

def exception : List String := within "builtins" ["Exception", "BaseException"]

def textStream : List String := ["_io._IOBase"]

def cell : List String := ["_ctypes._CData"]

/-- Built-in classes that derive from the same classes. -/
def builtinsBelow (above names : List String) : List (String × List String) :=
  (within "builtins" names).map fun n => (n, above)

def exceptionLines : List (String × List String) :=
  let below (nearest : String) : List String := ("builtins." ++ nearest) :: exception
  builtinsBelow [] ["BaseException"]
    ++ builtinsBelow (within "builtins" ["BaseException"])
      ["Exception", "BaseExceptionGroup", "GeneratorExit", "KeyboardInterrupt", "SystemExit"]
    ++ builtinsBelow (below "BaseExceptionGroup") ["ExceptionGroup"]
    ++ builtinsBelow exception
      ["ArithmeticError", "AssertionError", "AttributeError", "BufferError", "EOFError",
       "ImportError", "LookupError", "MemoryError", "NameError", "OSError", "ReferenceError",
       "RuntimeError", "StopAsyncIteration", "StopIteration", "SyntaxError", "SystemError",
       "TypeError", "ValueError", "Warning"]
    ++ builtinsBelow (below "ArithmeticError")
      ["FloatingPointError", "OverflowError", "ZeroDivisionError"]
    ++ builtinsBelow (below "ImportError") ["ModuleNotFoundError"]
    ++ builtinsBelow (below "LookupError") ["IndexError", "KeyError"]
    ++ builtinsBelow (below "NameError") ["UnboundLocalError"]
    ++ builtinsBelow (below "OSError")
      ["BlockingIOError", "ChildProcessError", "ConnectionError", "FileExistsError",
       "FileNotFoundError", "InterruptedError", "IsADirectoryError", "NotADirectoryError",
       "PermissionError", "ProcessLookupError", "TimeoutError"]
    ++ builtinsBelow ("builtins.ConnectionError" :: below "OSError")
      ["BrokenPipeError", "ConnectionAbortedError", "ConnectionRefusedError",
       "ConnectionResetError"]
    ++ builtinsBelow (below "RuntimeError") ["NotImplementedError", "RecursionError"]
    ++ builtinsBelow (below "SyntaxError") ["IndentationError"]
    ++ builtinsBelow ("builtins.IndentationError" :: below "SyntaxError") ["TabError"]
    ++ builtinsBelow (below "ValueError") ["UnicodeError"]
    ++ builtinsBelow ("builtins.UnicodeError" :: below "ValueError")
      ["UnicodeDecodeError", "UnicodeEncodeError", "UnicodeTranslateError"]
    ++ builtinsBelow (below "Warning")
      ["BytesWarning", "DeprecationWarning", "EncodingWarning", "FutureWarning", "ImportWarning",
       "PendingDeprecationWarning", "ResourceWarning", "RuntimeWarning", "SyntaxWarning",
       "UnicodeWarning", "UserWarning"]

def helperLines : List (String × List String) :=
  builtinsBelow [] ["classmethod", "enumerate", "filter", "map", "property", "reversed", "slice",
    "staticmethod", "super", "zip"]

/-- Each class with the classes it derives from, the nearest first and the root left out; of those
that derive from one class, the one made first stands first. -/
def lines : List (String × List String) :=
  [("builtins.object", []),
   ("builtins.int", []),
   ("builtins.bool", within "builtins" ["int"]),
   ("builtins.float", []),
   ("builtins.complex", []),
   ("builtins.str", []),
   ("builtins.bytes", []),
   ("builtins.bytearray", []),
   ("builtins.list", []),
   ("builtins.tuple", []),
   ("builtins.dict", []),
   ("builtins.set", []),
   ("builtins.frozenset", []),
   ("builtins.range", []),
   ("builtins.type", []),
   ("builtins.memoryview", []),
   ("collections.abc.Hashable", []),
   ("collections.abc.Sized", []),
   ("collections.abc.Iterable", []),
   ("collections.abc.Iterator", abstracts ["Iterable"]),
   ("collections.abc.Reversible", abstracts ["Iterable"]),
   ("collections.abc.Container", []),
   ("collections.abc.Collection", abstracts ["Sized", "Iterable", "Container"]),
   ("collections.abc.Callable", []),
   ("collections.abc.Set", collection),
   ("collections.abc.MutableSet", abstracts ["Set"] ++ collection),
   ("collections.abc.Mapping", collection),
   ("collections.abc.MutableMapping", mapping),
   ("collections.abc.Sequence", abstracts ["Reversible"] ++ collection),
   ("collections.abc.MutableSequence", sequence),
   ("collections.OrderedDict", within "builtins" ["dict"]),
   ("collections.defaultdict", within "builtins" ["dict"]),
   ("collections.Counter", within "builtins" ["dict"]),
   ("collections.deque", []),
   ("collections.UserDict", abstracts ["MutableMapping"] ++ mapping),
   ("collections.UserList", abstracts ["MutableSequence"] ++ sequence),
   ("collections.UserString", sequence),
   ("collections.ChainMap", abstracts ["MutableMapping"] ++ mapping),
   ("numbers.Number", []),
   ("numbers.Complex", within "numbers" ["Number"]),
   ("numbers.Real", complex),
   ("numbers.Rational", real),
   ("numbers.Integral", rational),
   ("decimal.Decimal", []),
   ("fractions.Fraction", rational),
   ("datetime.date", []),
   ("datetime.datetime", within "datetime" ["date"]),
   ("datetime.time", []),
   ("datetime.timedelta", []),
   ("_io._IOBase", []),
   ("io.IOBase", textStream),
   ("io.StringIO", textStream),
   ("io.BytesIO", textStream),
   ("uuid.UUID", []),
   ("pathlib.PurePath", []),
   ("pathlib.Path", within "pathlib" ["PurePath"]),
   ("enum.Enum", []),
   ("enum.IntEnum", ["builtins.int", "enum.Enum"]),
   ("typing.BinaryIO", []),
   ("pydantic.SecretStr", []),
   ("pydantic.SecretBytes", []),
   ("_ctypes._CData", []),
   ("ctypes.c_bool", cell),
   ("ctypes.c_byte", cell),
   ("ctypes.c_char", cell),
   ("ctypes.c_short", cell),
   ("ctypes.c_int", cell),
   ("ctypes.c_long", cell),
   ("ctypes.c_float", cell),
   ("ctypes.c_double", cell),
   ("types.module", []),
   ("types.function", []),
   ("abc.ABCMeta", [metaName]),
   ("enum.EnumType", [metaName]),
   ("_ctypes.PyCSimpleType", [metaName]),
   ("_frozen_importlib.BuiltinImporter", [])] ++ exceptionLines ++ helperLines

def isClass (name : String) : Bool := (lines.lookup name).isSome

/-- The class and all it derives from, the nearest first. -/
def line (name : String) : List String :=
  if name = rootName then [rootName]
  else name :: ((lines.lookup name).getD [] ++ [rootName])

/-- The classes derived from `name` with no other class between. -/
def directSubclasses (name : String) : List String :=
  (lines.filter fun l => l.2.contains name
    && l.2.all fun m => m == name || !(line m).contains name).map Prod.fst

/-! ### What governs a class -/

/-- Standard classes with which others can be registered, apart from those that derive from them. -/
def registrars : List String :=
  abstracts ["Hashable", "Sized", "Iterable", "Container", "Callable"]
    ++ ["numbers.Number", "io.IOBase"]

def regime (name : String) : Regime :=
  if (line name).any fun n => registrars.contains n then .abstract
  else if (line name).contains "enum.Enum" then .enumeration
  else if (line name).contains "_ctypes._CData" then .fixedWidth
  else .plain

/-- The classes registered with a class from the start. -/
def registered (name : String) : List String :=
  match name with
  | "collections.abc.Sequence"        =>
      within "builtins" ["tuple", "str", "range", "memoryview", "bytes"]
  | "collections.abc.MutableSequence" =>
      ["builtins.list", "builtins.bytearray", "collections.deque"]
  | "collections.abc.Set"             => ["builtins.frozenset"]
  | "collections.abc.MutableSet"      => ["builtins.set"]
  | "collections.abc.MutableMapping"  => ["builtins.dict"]
  | "numbers.Number"                  => ["decimal.Decimal"]
  | "numbers.Complex"                 => ["builtins.complex"]
  | "numbers.Real"                    => ["builtins.float"]
  | "numbers.Integral"                => ["builtins.int"]
  | "io.IOBase"                       => ["io.StringIO", "io.BytesIO"]
  | _                                 => []

/-! ### Forms of instances -/

/-- The classes no class can derive from. -/
def finals : List String := within "builtins" ["bool", "range", "memoryview", "slice"]

/-- The classes whose instances have a form that those of other classes do not have. -/
def formed : List String :=
  within "builtins" ["int", "float", "complex", "str", "bytes", "bytearray", "list", "tuple",
    "dict", "set", "frozenset", "type", "BaseException", "BaseExceptionGroup", "SystemExit",
    "ImportError", "NameError", "AttributeError", "StopIteration", "SyntaxError", "OSError",
    "UnicodeDecodeError", "UnicodeEncodeError", "UnicodeTranslateError", "classmethod",
    "enumerate", "filter", "map", "property", "reversed", "staticmethod", "super", "zip"]
    ++ within "collections" ["OrderedDict", "defaultdict", "deque"]
    ++ within "datetime" ["date", "datetime", "time", "timedelta"]
    ++ ["decimal.Decimal", "fractions.Fraction", "_io._IOBase", "io.StringIO", "io.BytesIO",
      "uuid.UUID", "pathlib.PurePath", "_ctypes._CData", "types.module"]

/-- The class that gives the instances of a class their form. -/
def form (name : String) : String := ((line name).find? fun n => formed.contains n).getD rootName

/-- The form of instances that have both forms. -/
def commonForm? (a b : String) : Option String :=
  if (line a).contains b then some a else if (line b).contains a then some b else none

/-! ### Methods -/

def collecting : List String := ["__len__", "__iter__", "__contains__"]

/-- The methods of a class itself, as far as other classes are known by them. -/
def offered (name : String) : List String :=
  match name with
  | "builtins.object"            => ["__hash__"]
  | "builtins.int"               => ["__hash__"]
  | "builtins.float"             => ["__hash__"]
  | "builtins.complex"           => ["__hash__"]
  | "builtins.str"               => "__hash__" :: collecting
  | "builtins.bytes"             => "__hash__" :: collecting
  | "builtins.bytearray"         => collecting
  | "builtins.list"              => "__reversed__" :: collecting
  | "builtins.tuple"             => "__hash__" :: collecting
  | "builtins.dict"              => "__reversed__" :: collecting
  | "builtins.set"               => collecting
  | "builtins.frozenset"         => "__hash__" :: collecting
  | "builtins.range"             => "__hash__" :: "__reversed__" :: collecting
  | "builtins.type"              => ["__call__"]
  | "builtins.memoryview"        => ["__hash__", "__len__", "__iter__"]
  | "builtins.enumerate"         => ["__iter__", "__next__"]
  | "builtins.filter"            => ["__iter__", "__next__"]
  | "builtins.map"               => ["__iter__", "__next__"]
  | "builtins.reversed"          => ["__iter__", "__next__"]
  | "builtins.staticmethod"      => ["__call__"]
  | "builtins.zip"               => ["__iter__", "__next__"]
  | "collections.abc.Hashable"   => ["__hash__"]
  | "collections.abc.Sized"      => ["__len__"]
  | "collections.abc.Iterable"   => ["__iter__"]
  | "collections.abc.Iterator"   => ["__iter__", "__next__"]
  | "collections.abc.Reversible" => ["__reversed__"]
  | "collections.abc.Container"  => ["__contains__"]
  | "collections.abc.Callable"   => ["__call__"]
  | "collections.abc.Sequence"   => ["__iter__", "__contains__", "__reversed__"]
  | "collections.abc.Mapping"    => ["__contains__"]
  | "collections.OrderedDict"    => ["__iter__", "__reversed__"]
  | "collections.deque"          => "__reversed__" :: collecting
  | "collections.UserDict"       => collecting
  | "collections.UserList"       => ["__len__", "__contains__"]
  | "collections.UserString"     => ["__hash__", "__len__", "__contains__"]
  | "collections.ChainMap"       => collecting
  | "decimal.Decimal"            => ["__hash__"]
  | "fractions.Fraction"         => ["__hash__"]
  | "datetime.date"              => ["__hash__"]
  | "datetime.datetime"          => ["__hash__"]
  | "datetime.time"              => ["__hash__"]
  | "datetime.timedelta"         => ["__hash__"]
  | "_io._IOBase"                => ["__iter__", "__next__"]
  | "uuid.UUID"                  => ["__hash__"]
  | "pathlib.PurePath"           => ["__hash__"]
  | "enum.Enum"                  => ["__hash__"]
  | "pydantic.SecretStr"         => ["__hash__", "__len__"]
  | "pydantic.SecretBytes"       => ["__hash__", "__len__"]
  | "_ctypes._CData"             => ["__hash__"]
  | _                            => []

/-- The classes that do without the hash of those they derive from. -/
def unhashable : List String :=
  within "builtins" ["bytearray", "list", "dict", "set", "slice"]
    ++ within "collections" ["OrderedDict", "Counter", "deque", "UserList"]
    ++ abstracts ["Set", "Mapping"] ++ within "numbers" ["Number", "Complex"]

/-- Whether a class itself offers a method or refuses it. -/
def method? (name method : String) : Option Bool :=
  if (offered name).contains method then some true
  else if method = "__hash__" && unhashable.contains name
    || method = "__reversed__" && name = "collections.abc.Mapping" then some false
  else none

/-- The methods by which classes are known to be below an abstract class. -/
def asked (name : String) : List String :=
  match name with
  | "collections.abc.Hashable"   => ["__hash__"]
  | "collections.abc.Sized"      => ["__len__"]
  | "collections.abc.Iterable"   => ["__iter__"]
  | "collections.abc.Iterator"   => ["__iter__", "__next__"]
  | "collections.abc.Reversible" => ["__reversed__", "__iter__"]
  | "collections.abc.Container"  => ["__contains__"]
  | "collections.abc.Collection" => collecting
  | "collections.abc.Callable"   => ["__call__"]
  | _                            => []

/-! ### Names -/

/-- Further names of classes. -/
def aliases : List (String × String) :=
  [("builtins.IOError", "builtins.OSError"), ("builtins.EnvironmentError", "builtins.OSError"),
   ("builtins.__class__", "types.module"),
   ("builtins.__loader__", "_frozen_importlib.BuiltinImporter"), ("typing.Text", "builtins.str"),
   ("ctypes.c_int8", "ctypes.c_byte"), ("ctypes.c_int16", "ctypes.c_short"),
   ("ctypes.c_int32", "ctypes.c_int"), ("ctypes.c_longlong", "ctypes.c_long"),
   ("ctypes.c_int64", "ctypes.c_long")]

/-- The class with a full name, by the name it was made under. -/
def find? (name : String) : Option String :=
  let made := (aliases.lookup name).getD name
  if isClass made then some made else none

/-- The name of a class inside its module. -/
def qualifiedName (name : String) : String := (Text.components name).getLastD name

/-- Standard modules; they are always loaded. -/
def modules : List String :=
  ["builtins", "collections", "collections.abc", "numbers", "decimal", "fractions", "datetime",
   "io", "uuid", "pathlib", "enum", "typing", "pydantic", "ctypes"]

/-- The functions that are built in. -/
def functions : List String :=
  within "builtins" ["__build_class__", "__import__", "abs", "aiter", "all", "anext", "any",
    "ascii", "bin", "breakpoint", "callable", "chr", "compile", "delattr", "dir", "divmod", "eval",
    "exec", "format", "getattr", "globals", "hasattr", "hash", "hex", "id", "input", "isinstance",
    "issubclass", "iter", "len", "locals", "max", "min", "next", "oct", "open", "ord", "pow",
    "print", "repr", "round", "setattr", "sorted", "sum", "vars"]

/-- Standard objects that are not classes, with the names of their types. -/
def objects : List (String × String) :=
  functions.map (fun f => (f, "builtin_function_or_method"))
    ++ [("builtins.True", "bool"), ("builtins.False", "bool"), ("builtins.__debug__", "bool"),
      ("builtins.__name__", "str"), ("builtins.__doc__", "str"), ("builtins.__package__", "str"),
      ("builtins.__spec__", "ModuleSpec"), ("builtins.Ellipsis", "ellipsis"),
      ("builtins.NotImplemented", "NotImplementedType"), ("collections.namedtuple", "function"),
      ("typing.List", "_SpecialGenericAlias"), ("typing.Optional", "_SpecialForm"),
      ("typing.Union", "_SpecialForm")]

/-! ### What objects are instances of -/

/-- The class that the classes under a regime are instances of; those with checks do not tell. -/
def metaOf? : Regime → Option String
  | .plain       => some metaName
  | .abstract    => some "abc.ABCMeta"
  | .checked     => none
  | .enumeration => some "enum.EnumType"
  | .fixedWidth  => some "_ctypes.PyCSimpleType"

/-- The class of the values whose type has a name. -/
def ofType? (type : String) : Option String :=
  if type = "function" then some "types.function" else find? ("builtins." ++ type)

/-- The attributes that every class has, with the types of their values. -/
def classAttributes : List (String × String) :=
  [("__name__", "str"), ("__qualname__", "str"), ("__module__", "str"),
   ("__dict__", "mappingproxy"), ("__mro__", "tuple"), ("__bases__", "tuple")]

/-- The attributes that every module has, with the types of their values. -/
def moduleAttributes : List (String × String) :=
  [("__name__", "str"), ("__package__", "str"), ("__dict__", "dict"), ("__spec__", "ModuleSpec")]

end Standard

end TypeCatalog.Live
