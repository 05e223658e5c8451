import TypeCatalog.Live.Standard

/-! # Live classes — worlds

A world describes the modules that can be imported beside the standard ones: what importing each
comes to, the objects in it, and the classes that count as subclasses without deriving.
-/

namespace TypeCatalog.Live

/-- What a class answers whenever it is asked about subclasses. -/
inductive Check where
  | refuses
  | raises
  | always
  | never
  deriving DecidableEq, Repr

def Check.all : List Check := [.refuses, .raises, .always, .never]

def Check.word : Check → String
  | .refuses => "refuses"
  | .raises  => "raises"
  | .always  => "always"
  | .never   => "never"

def Check.ofWord? (word : String) : Option Check := Check.all.find? fun c => c.word == word

/-- How a module behaves on import. -/
inductive ModuleState where
  | importable
  | loaded
  | missing
  | missingDependency
  | broken
  | importError
  | exits
  | blocked
  deriving DecidableEq, Repr

namespace ModuleState

def all : List ModuleState :=
  [.importable, .loaded, .missing, .missingDependency, .broken, .importError, .exits, .blocked]

def word : ModuleState → String
  | .importable        => "importable"
  | .loaded            => "loaded"
  | .missing           => "missing"
  | .missingDependency => "missing_dependency"
  | .broken            => "broken"
  | .importError       => "import_error"
  | .exits             => "exits"
  | .blocked           => "blocked"

def ofWord? (word : String) : Option ModuleState := all.find? fun s => s.word == word

end ModuleState

/-- What a name in a module or a class is declared as. -/
inductive Declaration where
  | newClass (bases : List String) (members : List (String × Declaration)) (isAbstract : Bool)
      (check : Option Check)
  | alias (name : String)
  | nothing
  | value (type : String)
  | instanceOf (name : String)

structure ModuleSpec where
  state : ModuleState
  members : List (String × Declaration)
  raising : List String

structure World where
  modules : List (String × ModuleSpec)
  registers : List (String × List String)

def World.empty : World := ⟨[], []⟩

end TypeCatalog.Live
