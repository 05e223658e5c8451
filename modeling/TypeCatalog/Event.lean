import TypeCatalog.Value

/-! # Events

An event is one thing worth recording: a name, a level, and named values.  The library returns its
events as data; whether and where they are written is for the logging outputs to decide.
-/

namespace TypeCatalog

inductive Level where
  | debug
  | info
  | warning
  | error
  | critical
  deriving DecidableEq, Repr

namespace Level

def all : List Level := [.debug, .info, .warning, .error, .critical]

def number : Level → Nat
  | .debug    => 10
  | .info     => 20
  | .warning  => 30
  | .error    => 40
  | .critical => 50

/-- The word for a level in a record. -/
def word : Level → String
  | .debug    => "debug"
  | .info     => "info"
  | .warning  => "warning"
  | .error    => "error"
  | .critical => "critical"

def ofWord? (word : String) : Option Level := all.find? fun l => l.word == word

/-- The name of a level in settings. -/
def name : Level → String
  | .debug    => "DEBUG"
  | .info     => "INFO"
  | .warning  => "WARNING"
  | .error    => "ERROR"
  | .critical => "CRITICAL"

def ofName? (name : String) : Option Level := all.find? fun l => l.name == name

end Level

structure Event where
  name : String
  level : Level
  fields : List (String × Value)

end TypeCatalog
