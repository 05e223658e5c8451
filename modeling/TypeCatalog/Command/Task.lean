/-! # The command line — tasks and switches

The program is called with switches, then a task and what belongs to the task.  The names, the
parameters and the descriptions of all of them are here; scanning, usage messages and help pages are
derived from these.

* `Switch`: a word with dashes, with or without an argument.
* `Task`: what the program can be asked to do.
* `Scope`: the program as a whole, or one task.
-/

namespace TypeCatalog.Command

inductive Switch where
  | version
  | verbose
  | config
  | help
  | json
  | member
  | param
  | index
  deriving DecidableEq, Repr

namespace Switch

def name : Switch → String
  | .version => "--version"
  | .verbose => "--verbose"
  | .config  => "--config"
  | .help    => "--help"
  | .json    => "--json"
  | .member  => "--member"
  | .param   => "--param"
  | .index   => "--index"

/-- The letter of a switch that has a short form.  Switches with an argument have none. -/
def letter? : Switch → Option Char
  | .verbose => some 'v'
  | _        => none

/-- The word for the argument, if the switch takes one. -/
def argument? : Switch → Option String
  | .config => some "FILE"
  | .index  => some "FILE"
  | .member => some "TEXT"
  | .param  => some "INTEGER"
  | _       => none

def purpose : Switch → String
  | .version => "Show the version and exit."
  | .verbose => "Enable debug logging"
  | .config  => "Project config file (default: ./typemeta.yaml if present)"
  | .help    => "Show this message and exit."
  | .json    => "Output as JSON"
  | .member  => "Field or method of the class"
  | .param   => "Parameter position of --member"
  | .index   => "YAML index snapshot to consult before the runtime"

/-- All that can be typed for a switch, and its argument. -/
def spelling (s : Switch) : String :=
  let short := (s.letter?.map fun c => String.ofList ['-', c, ',', ' ']).getD ""
  short ++ s.name ++ (s.argument?.map (" " ++ ·)).getD ""

end Switch

/-- What has to be given for a task. -/
inductive Parameter where
  | indexPath
  | className
  | type
  | subject
  | target
  deriving DecidableEq, Repr

def Parameter.name : Parameter → String
  | .indexPath => "INDEX_PATH"
  | .className => "CLASS_NAME"
  | .type      => "TYPE"
  | .subject   => "SUBJECT"
  | .target    => "TARGET"

inductive Task where
  | annotations
  | classify
  | formats
  | isA
  deriving DecidableEq, Repr

namespace Task

/-- The tasks in alphabetical order. -/
def all : List Task := [.annotations, .classify, .formats, .isA]

def name : Task → String
  | .annotations => "annotations"
  | .classify    => "classify"
  | .formats     => "formats"
  | .isA         => "is-a"

def ofName? (name : String) : Option Task := all.find? fun t => t.name == name

def parameters : Task → List Parameter
  | .annotations => [.indexPath, .className]
  | .classify    => [.type]
  | .formats     => []
  | .isA         => [.subject, .target]

def switches : Task → List Switch
  | .annotations => [.member, .param, .json, .help]
  | .classify    => [.json, .help]
  | .formats     => [.json, .help]
  | .isA         => [.index, .json, .help]

def summary : Task → String
  | .annotations => "List annotations on CLASS_NAME, or on one of its members."
  | .classify    => "Show the OpenAPI schema type and format for TYPE."
  | .formats     => "List every type name with a known schema format."
  | .isA         => "Test whether SUBJECT is a subtype of TARGET."

/-- What else there is to say, line by line. -/
def details : Task → List String
  | .annotations => ["INDEX_PATH is a YAML index snapshot."]
  | .classify    =>
      ["TYPE is a dotted class name (decimal.Decimal), a primitive (int32), an array",
       "(list[str]) or a type variable (~T: numbers.Real)."]
  | .formats     => []
  | .isA         => ["Exits with status 1 when it is not."]

end Task

inductive Scope where
  | program
  | task (t : Task)
  deriving DecidableEq, Repr

/-- The name of the program. -/
def programName : String := "typemeta"

def version : String := "0.1.0"

namespace Scope

def name : Scope → String
  | .program => programName
  | .task t  => programName ++ " " ++ t.name

def switches : Scope → List Switch
  | .program => [.version, .verbose, .config, .help]
  | .task t  => t.switches

/-- What may be typed after the name. -/
def pattern : Scope → List String
  | .program => ["[OPTIONS]", "COMMAND", "[ARGS]..."]
  | .task t  => "[OPTIONS]" :: t.parameters.map Parameter.name

def summary : Scope → String
  | .program => "typemeta - OpenAPI schema types for statically indexed Python types."
  | .task t  => t.summary

def details : Scope → List String
  | .program => []
  | .task t  => t.details

/-- Switches may stand between other words. -/
def isMixed : Scope → Bool
  | .program => false
  | .task _  => true

/-- The line that shows how to call the program. -/
def usage (s : Scope) : String := "Usage: " ++ s.name ++ " " ++ " ".intercalate s.pattern

end Scope

end TypeCatalog.Command
