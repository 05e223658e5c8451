import TypeCatalog.Command.Scan
import TypeCatalog.Decimal.Whole
import TypeCatalog.Stored

/-! # The command line — requests

What the words of a command line ask for.  The words for the program are read first; those for the
task only after the settings have been loaded, so that a fault in the settings comes before misuse
of the task.  Switches are checked before parameters.

* `ProgramRequest.ofWords`: what is asked of the program: a task and how to go about it.
* `Request.ofWords`: what is asked of a task.
-/

namespace TypeCatalog.Command

/-- Why no task is carried out: a help page or the version is asked for, or the program is called
wrongly. -/
inductive Halt where
  | help (scope : Scope)
  | version
  | misuse (scope : Scope) (m : Misuse)

/-- The words of a scope, scanned; asking for help or for the version ends it. -/
def scanScope (scope : Scope) (words : List String) : Except Halt Scanned :=
  match scan scope.switches scope.isMixed words with
  | .error m => .error (.misuse scope m)
  | .ok s    =>
      match s.first? [.version, .help] with
      | some .version => .error .version
      | some _        => .error (.help scope)
      | none          => .ok s

/-! ### Files -/

/-- A path that must not be that of a directory or of a file that must not be read. -/
def filePath (stored : String → Stored) (parameter path : String) : Except Misuse String :=
  if path.toList.contains '\x00' then .error .nullCharacter
  else
    match stored path with
    | .directory    => .error (.isDirectory parameter path)
    | .closed false => .error (.notReadable parameter path)
    | _             => .ok path

/-- A path that has to be that of a file. -/
def existingFile (stored : String → Stored) (parameter path : String) : Except Misuse String :=
  if (stored path).exists? || path.toList.contains '\x00' then filePath stored parameter path
  else .error (.noFile parameter path)

/-- Checks the argument of a switch, if it is given. -/
def ifGiven {α β ε : Type} (check : α → Except ε β) : Option α → Except ε (Option β)
  | none   => .ok none
  | some a => (check a).map some

/-! ### The program -/

/-- `words` are left for the task. -/
structure ProgramRequest where
  verbose : Bool
  config : Option String
  task : Task
  words : List String

namespace ProgramRequest

/-- The switches of the program, and the other words. -/
def switchesOf (stored : String → Stored) (words : List String) :
    Except Halt (Scanned × Option String) := do
  let s ← scanScope .program words
  let config ← (ifGiven (filePath stored Switch.config.name)
    (s.argument? .config)).mapError (.misuse .program)
  return (s, config)

/-- A word that is no task, with the words after it.  Where switches for the program have come too
late, those are dealt with first. -/
def unknownTask (stored : String → Stored) (word : String) (words : List String) : Halt :=
  match switchesOf stored (word :: words) with
  | .error h => h
  | .ok _    => .misuse .program (.unknownTask word (Text.closest word (Task.all.map Task.name)))

def ofWords (stored : String → Stored) (words : List String) : Except Halt ProgramRequest := do
  let (s, config) ← switchesOf stored words
  match s.words with
  | []           => throw (.misuse .program .noTask)
  | word :: rest =>
      match Task.ofName? word with
      | some task => return ⟨s.has .verbose, config, task, rest⟩
      | none      => throw (unknownTask stored word rest)

end ProgramRequest

/-! ### The tasks -/

/-- What is asked of a task; `json` asks for the answer as JSON. -/
inductive Request where
  | annotations (index className : String) (member : Option String) (param : Option Int)
      (json : Bool)
  | classify (type : String) (json : Bool)
  | formats (json : Bool)
  | isA (subject target : String) (index : Option String) (json : Bool)

namespace Request

/-- No word may be left. -/
def noWord : List String → Except Misuse Unit
  | []    => .ok ()
  | words => .error (.tooMany words)

def oneWord (p : Parameter) : List String → Except Misuse String
  | []         => .error (.parameterMissing p.name)
  | a :: words => (noWord words).map fun _ => a

def twoWords (p q : Parameter) : List String → Except Misuse (String × String)
  | []         => .error (.parameterMissing p.name)
  | a :: words => (oneWord q words).map fun b => (a, b)

def paramPosition (text : String) : Except Misuse Int :=
  match Decimal.whole? text with
  | some i => .ok i
  | none   => .error (.notInteger Switch.param.name text)

/-- The words for the annotations of an element.  The index is looked for before the name of the
class is missed. -/
def annotationsOf (stored : String → Stored) (s : Scanned) : Except Misuse Request := do
  let param ← ifGiven paramPosition (s.argument? .param)
  let _ ← ifGiven (existingFile stored Parameter.indexPath.name) s.words.head?
  let (index, className) ← twoWords .indexPath .className s.words
  return .annotations index className (s.argument? .member) param (s.has .json)

def classifyOf (s : Scanned) : Except Misuse Request :=
  (oneWord .type s.words).map fun type => .classify type (s.has .json)

def formatsOf (s : Scanned) : Except Misuse Request :=
  (noWord s.words).map fun _ => .formats (s.has .json)

def isAOf (stored : String → Stored) (s : Scanned) : Except Misuse Request := do
  let index ← ifGiven (existingFile stored Switch.index.name) (s.argument? .index)
  let (subject, target) ← twoWords .subject .target s.words
  return .isA subject target index (s.has .json)

def ofScanned (stored : String → Stored) (s : Scanned) : Task → Except Misuse Request
  | .annotations => annotationsOf stored s
  | .classify    => classifyOf s
  | .formats     => formatsOf s
  | .isA         => isAOf stored s

def ofWords (stored : String → Stored) (task : Task) (words : List String) :
    Except Halt Request := do
  let s ← scanScope (.task task) words
  (ofScanned stored s task).mapError (.misuse (.task task))

end Request

end TypeCatalog.Command
