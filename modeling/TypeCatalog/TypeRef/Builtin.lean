import TypeCatalog.Text.Dotted

/-! # Type references — names of built-in types

A bare name that is one of the built-in types stands for that type in the module `builtins`.
-/

namespace TypeCatalog.TypeRef

/-- The names of the built-in types. -/
def builtinNames : List String :=
  ["ArithmeticError", "AssertionError", "AttributeError", "BaseException", "BaseExceptionGroup",
   "BlockingIOError", "BrokenPipeError", "BufferError", "BytesWarning", "ChildProcessError",
   "ConnectionAbortedError", "ConnectionError", "ConnectionRefusedError", "ConnectionResetError",
   "DeprecationWarning", "EOFError", "EncodingWarning", "EnvironmentError", "Exception",
   "ExceptionGroup", "FileExistsError", "FileNotFoundError", "FloatingPointError", "FutureWarning",
   "GeneratorExit", "IOError", "ImportError", "ImportWarning", "IndentationError", "IndexError",
   "InterruptedError", "IsADirectoryError", "KeyError", "KeyboardInterrupt", "LookupError",
   "MemoryError", "ModuleNotFoundError", "NameError", "NotADirectoryError", "NotImplementedError",
   "OSError", "OverflowError", "PendingDeprecationWarning", "PermissionError",
   "ProcessLookupError", "RecursionError", "ReferenceError", "ResourceWarning", "RuntimeError",
   "RuntimeWarning", "StopAsyncIteration", "StopIteration", "SyntaxError", "SyntaxWarning",
   "SystemError", "SystemExit", "TabError", "TimeoutError", "TypeError", "UnboundLocalError",
   "UnicodeDecodeError", "UnicodeEncodeError", "UnicodeError", "UnicodeTranslateError",
   "UnicodeWarning", "UserWarning", "ValueError", "Warning", "ZeroDivisionError", "__class__",
   "__loader__", "bool", "bytearray", "bytes", "classmethod", "complex", "dict", "enumerate",
   "filter", "float", "frozenset", "int", "list", "map", "memoryview", "object", "property",
   "range", "reversed", "set", "slice", "staticmethod", "str", "super", "tuple", "type", "zip"]

/-- The dotted name a bare built-in name stands for; other names stand for themselves. -/
def qualify (name : String) : String :=
  if builtinNames.contains name then "builtins." ++ name else name

end TypeCatalog.TypeRef
