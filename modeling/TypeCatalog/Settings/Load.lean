import TypeCatalog.Report
import TypeCatalog.Settings.Given
import TypeCatalog.Settings.Layers
import TypeCatalog.Stored

/-! # Settings — loading

Settings come from four places, each laid over the next: what the caller gives, environment
variables, the file of the project, the file of the user.  What none of them sets has its default.

* `Sources`: the four places.
* `Settings.load`: the settings they give together, or how loading fails.
-/

namespace TypeCatalog.Settings

/-- Where settings come from.  `required` says that the file of the project has to exist. -/
structure Sources where
  userPath : String
  userFile : Stored
  projectPath : String
  projectFile : Stored
  required : Bool
  environment : List (String × String)
  given : List (Value × Value)

/-- What is wrong with a configuration. -/
inductive Fault where
  | missing (path : String)
  | unreadable (path reason : String)
  | invalid (field : String) (value : Value) (reason : String)

def Fault.report : Fault → Report
  | .missing path               => .configMissing path
  | .unreadable path reason     => .configUnreadable path reason
  | .invalid field value reason => .configInvalid field value reason

/-- How loading fails: with a fault of the configuration; with a variable that is not JSON, for the
section named; with a key of the configuration that is no text; with an option that cannot have the
value given; with a scalar that stands for nothing, or a value that cannot be written in a report;
because there is a directory where a file is expected, a path that cannot be looked up, a file that
cannot be opened, or one whose bytes are no text; because something goes on for ever; or without any
settings, for the reason given. -/
inductive Failure where
  | fault (f : Fault)
  | badVariable (name : String)
  | keyNotText
  | badOption
  | badValue (b : Document.BadValue)
  | directory (path : String)
  | unreachable (path : String)
  | closed (path : String)
  | undecodable (path : String)
  | endless
  | abandoned (reason : String)

def notMapping : String := "top level must be a mapping"

/-- The entries of a file. -/
def entriesOf (path : String) : Stored → Except Failure (List (Value × Value))
  | .absent            => .ok []
  | .unreachable       => .error (.unreachable path)
  | .directory         => .error (.directory path)
  | .closed _          => .error (.closed path)
  | .undecodable       => .error (.undecodable path)
  | .unreadable reason => .error (.fault (.unreadable path reason))
  | .unusable b        => .error (.badValue b)
  | .endless           => .error .endless
  | .document v        =>
      match (Stored.orEmpty v).entries? with
      | some es => .ok es
      | none    => .error (.fault (.unreadable path notMapping))

def ofVariables (naming : Environment.Naming) (environment : List (String × String)) :
    Except Failure (List (Value × Value)) :=
  (Environment.read naming environment Environment.Shape.sections).mapError .badVariable

/-- The settings a caller gives, and the naming of variables. -/
def givenOf (es : List (Value × Value)) : Except Failure Given :=
  match Given.ofEntries? es with
  | some g => .ok g
  | none   => .error .badOption

def isText : Value → Bool
  | .text _ => true
  | _       => false

/-- The failure of a check, by its first complaint. -/
def Failure.ofComplaint (c : Complaint) : Failure :=
  if c.input.isWritable then .fault (.invalid c.location c.input c.cause.message)
  else .badValue .unwritten

/-- The settings of a check; of several complaints the first is reported. -/
def ofChecked : Checked Settings → Except Failure Settings
  | .valid s          => .ok s
  | .invalid c _      => .error (.ofComplaint c)
  | .abandoned reason => .error (.abandoned reason)

/-- The settings of the merged entries. -/
def ofEntries (homes : Destination.Homes) (es : List (Value × Value)) :
    Except Failure Settings :=
  if es.all fun e => isText e.1 then ofChecked (checkEntries homes es) else .error .keyNotText

/-- The file of the project is there, if it has to be. -/
def demand (s : Sources) : Except Failure Unit :=
  match s.required, s.projectFile with
  | true, .absent      => .error (.fault (.missing s.projectPath))
  | true, .unreachable => .error (.unreachable s.projectPath)
  | _,    _            => .ok ()

/-- The upper entries laid over the lower ones, unless that goes on for ever. -/
def layer (lower upper : List (Value × Value)) : Except Failure (List (Value × Value)) :=
  (Layers.merge? lower upper).elim (.error .endless) .ok

/-- The files of user and project, laid over each other. -/
def filesOf (s : Sources) : Except Failure (List (Value × Value)) := do
  demand s
  let user ← entriesOf s.userPath s.userFile
  let project ← entriesOf s.projectPath s.projectFile
  layer user project

/-- All sources, laid over each other: what the caller gives over the variables, and both together
over the files. -/
def mergedOf (s : Sources) : Except Failure (List (Value × Value)) := do
  let files ← filesOf s
  let given ← givenOf s.given
  let entries ← ofVariables given.naming s.environment
  let upper ← layer entries given.entries
  layer files upper

/-- The settings the sources give.  They are written out and checked once more, so that what is
returned is what its own written form stands for. -/
def load (users : Destination.Homes) (s : Sources) : Except Failure Settings := do
  let homes := users.within s.environment
  let es ← mergedOf s
  let settings ← ofEntries homes es
  ofChecked (check homes settings.written)

end TypeCatalog.Settings
