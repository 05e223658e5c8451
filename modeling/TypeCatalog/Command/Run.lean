import TypeCatalog.Command.Answer.Annotations
import TypeCatalog.Command.Answer.Formats
import TypeCatalog.Command.Answer.Subtypes
import TypeCatalog.Command.Help
import TypeCatalog.Command.Request
import TypeCatalog.Logging.Log

/-! # The command line — runs

A run of the program takes its words to an exit status, lines for standard output and for standard
error, and records in the log.  The log is set up before the words of the task are read.  The
records of a run come before its lines.

* `run`: a run of the program.
-/

namespace TypeCatalog.Command

/-- What a run finds around it: home directories, environment variables, the paths of the settings
of the user and of the project, what is stored at a path, where files of the log can go, and the
time as text. -/
structure Surroundings where
  homes : Destination.Homes
  environment : List (String × String)
  userPath : String
  projectPath : String
  stored : String → Stored
  storage : Storage
  time : String

/-- What a run comes to. -/
structure Outcome where
  status : Nat
  output : List String
  errors : List String
  written : List Logging.Written

namespace Outcome

def ofLines (status : Nat) (lines : List String) : Outcome := ⟨status, lines, [], []⟩

def ofErrors (status : Nat) (lines : List String) : Outcome := ⟨status, [], lines, []⟩

def ofMisuse (scope : Scope) (m : Misuse) : Outcome := .ofErrors 2 (m.lines scope)

def ofFault (f : Fault) : Outcome := .ofErrors 1 ["Error: " ++ f.message]

def versionLine : String := programName ++ ", version " ++ version

def ofHalt : Halt → Except Failure Outcome
  | .help scope              => .ok (.ofLines 0 scope.help)
  | .version                 => .ok (.ofLines 0 [versionLine])
  | .misuse _ .nullCharacter => .error .nullCharacter
  | .misuse scope m          => .ok (.ofMisuse scope m)

/-- A question answered in the negative ends with status 1. -/
def ofAnswer (task : Task) : Answer → Except Failure Outcome
  | .lines holds lines => .ok (.ofLines (if holds then 0 else 1) lines)
  | .refused f         => .ok (.ofFault f)
  | .misused m         => .ok (.ofMisuse (.task task) m)
  | .failed f          => .error f

/-- All texts for standard output. -/
def allOutput (o : Outcome) : List String := Logging.textsFor "stdout" o.written ++ o.output

/-- All texts for standard error. -/
def allErrors (o : Outcome) : List String := Logging.textsFor "stderr" o.written ++ o.errors

end Outcome

/-! ### Settings and log -/

/-- The settings file a run reads; one that is named has to exist. -/
def projectPathOf (w : Surroundings) (config : Option String) : String :=
  (config.map Path.normal).getD w.projectPath

def sourcesOf (w : Surroundings) (config : Option String) : Settings.Sources :=
  { userPath := w.userPath
    userFile := w.stored w.userPath
    projectPath := projectPathOf w config
    projectFile := w.stored (projectPathOf w config)
    required := config.isSome
    environment := w.environment
    given := [] }

/-- Where the run is to be verbose, the log takes events of every level. -/
def withVerbosity (verbose : Bool) (s : Settings) : Settings :=
  if verbose then { s with logging := { s.logging with level := .debug } } else s

/-- The log as the settings set it up. -/
def openLog (w : Surroundings) (s : Settings) : Except Failure Logging.Log :=
  match (Logging.Log.start w.storage).configure s.logging with
  | (_, some f) => .error (.log f)
  | (l, none)   => .ok l

/-- The records of events in a log. -/
def recordsOf (w : Surroundings) (l : Logging.Log) (events : List Event) : List Logging.Written :=
  (l.run w.time (events.map Logging.Action.ofEvent)).2

/-! ### Runs -/

namespace Answer

/-- The answer to a request, in the live process `p`. -/
def ofRequest {σ Obj Class : Type} (p : Live.Process σ Obj Class) (start : σ)
    (stored : String → Stored) (s : Settings) : Request → Answered
  | .annotations index className member param json =>
      annotations stored s index className member param json
  | .classify type json                            => classify s type json
  | .formats json                                  => formats s json
  | .isA subject target index json                 =>
      isA p start stored s (subject, target) index json

end Answer

section

variable {σ Obj Class : Type} (p : Live.Process σ Obj Class) (start : σ) (w : Surroundings)

/-- Carries out a task under settings. -/
def runTask (s : Settings) (task : Task) (words : List String) : Except Failure Outcome := do
  let l ← openLog w s
  match Request.ofWords w.stored task words with
  | .error h => Outcome.ofHalt h
  | .ok r    =>
      let a := Answer.ofRequest p start w.stored s r
      return { ← Outcome.ofAnswer task a.answer with written := recordsOf w l a.events }

/-- Loads the settings and carries out the task. -/
def runRequest (r : ProgramRequest) : Except Failure Outcome :=
  match Settings.load w.homes (sourcesOf w r.config) with
  | .error (.fault f) => .ok (.ofFault (.settings f))
  | .error f          => .error (.settings f)
  | .ok s             => runTask p start w (withVerbosity r.verbose s) r.task r.words

/-- A run of the program in the live process `p`.  Without any words the help page goes to standard
error. -/
def run (words : List String) : Except Failure Outcome :=
  if words.isEmpty then .ok (.ofErrors 2 Scope.program.help)
  else
    match ProgramRequest.ofWords w.stored words with
    | .error h => Outcome.ofHalt h
    | .ok r    => runRequest p start w r

end

end TypeCatalog.Command
