import Std.Time.Format
import TypeCatalog.Command.Run
import TypeCatalog.Live.Modules

/-! # The program

The command line as a program: it looks up what surrounds the run, carries it out, and prints what
it comes to.  Everything that is decided is decided in `Command.run`.
-/

namespace TypeCatalog.Program

open Command

/-- How a text from outside is held. -/
def held (s : String) : String := String.ofList (Text.held s.toList)

/-- A text for outside, with signs for what cannot be encoded in place of its halves. -/
def released (s : String) : String :=
  String.ofList ((Text.codes s.toList).map fun n => if Text.isHalf n then '\ufffd' else .ofNat n)

/-- The error number of a path that goes round in links. -/
def loopNumber : UInt32 := 40

/-- An error that says that there is nothing at a path, rather than that it cannot be told. -/
def saysAbsent : IO.Error → Bool
  | .noFileOrDirectory _ _ _       => true
  | .inappropriateType _ _ _       => true
  | .invalidArgument _ number _    => number == loopNumber
  | _                              => false

/-- An error that says that a file must not be read. -/
def saysForbidden : IO.Error → Bool
  | .permissionDenied _ _ _ => true
  | _                       => false

/-- What is stored at a path. -/
def readStored (path : String) : IO Stored := do
  if path.isEmpty || path.toList.contains '\x00' then return .absent
  let place := (← IO.currentDir) / released path
  match ← place.metadata.toBaseIO with
  | .error e => return if saysAbsent e then .absent else .unreachable
  | .ok data =>
      if data.type == .dir then return .directory
      match ← (IO.FS.readBinFile place).toBaseIO with
      | .error e  => return .closed !saysForbidden e
      | .ok bytes => return .ofBytes "not a document" bytes

/-- The paths that words of a command line may stand for: each word, and what follows an equals
sign, as typed and in normal form. -/
def pathsIn (words : List String) : List String :=
  (words ++ words.filterMap fun w => (cutAtEquals w).2).flatMap fun p => [p, Path.normal p]

/-- The variables of the environment. -/
def readEnvironment : IO (List (String × String)) := do
  try
    let text ← IO.FS.readFile "/proc/self/environ"
    return ((held text).splitOn "\x00").filterMap fun v =>
      (cutAtEquals v).2.map fun value => ((cutAtEquals v).1, value)
  catch _ => return []

/-- The home directories of all users. -/
def readHomes (own : String) : IO Destination.Homes := do
  try
    let users := (← IO.FS.lines "/etc/passwd").toList.map fun l => (held l).splitOn ":"
    return ⟨own, users.filterMap fun u => u.head?.bind fun name => u[5]?.map fun h => (name, h)⟩
  catch _ => return ⟨own, []⟩

/-- The time, in universal time to the second. -/
def readTime : IO String := do
  let now ← Std.Time.Timestamp.now
  return (Std.Time.DateTime.ofTimestamp now Std.Time.TimeZone.ZoneRules.UTC).format
    "uuuu-MM-dd HH:mm:ss"

def readSurroundings (words : List String) : IO Surroundings := do
  let environment ← readEnvironment
  let own := (environment.lookup "HOME").getD "/"
  let here := held (← IO.currentDir).toString
  let userPath := Path.normal (own ++ "/.config/typemeta/config.yaml")
  let projectPath := Path.normal (here ++ "/typemeta.yaml")
  let paths := (userPath :: projectPath :: pathsIn words).eraseDups
  let found ← paths.mapM fun p => return (p, ← readStored p)
  return ⟨← readHomes own, environment, userPath, projectPath,
    fun p => (found.lookup p).getD .absent,
    ((Storage.ofPaths [] []).withDirectory (.ofText here)).withDirectory (.ofText own), ← readTime⟩

/-- Adds texts to the end of a file, making its directory if need be. -/
def appendTexts (path : String) (texts : List String) : IO Unit := do
  let place := (← IO.currentDir) / released path
  if let some parent := place.parent then IO.FS.createDirAll parent
  IO.FS.withFile place .append fun h => texts.forM fun text => h.putStrLn (released text)

def printOutcome (o : Outcome) : IO UInt32 := do
  let places := (o.written.map Logging.Written.destination).eraseDups
  for place in places.filter fun d => !Destination.streams.contains d do
    appendTexts place (Logging.textsFor place o.written)
  o.allErrors.forM fun line => IO.eprintln (released line)
  o.allOutput.forM fun line => IO.println (released line)
  return o.status.toUInt32

/-- What is said of a file that cannot be read as a text. -/
def unreachableLine (path : String) : String := path ++ " cannot be looked up"

def directoryLine (path : String) : String := path ++ " is a directory"

def closedLine (path : String) : String := path ++ " cannot be opened"

def undecodableLine (path : String) : String := path ++ " is not encoded as text"

def endlessLine : String := "maximum recursion depth exceeded"

/-- What is said where a run has no outcome. -/
def failureLine : Command.Failure → String
  | .settings (.badVariable name)    => "error parsing value for field \"" ++ name ++ "\""
  | .settings .keyNotText            => "a key of the settings is no text"
  | .settings .badOption             => "an option cannot have the value given"
  | .settings (.badValue b)          => b.message
  | .settings (.unreachable path)    => unreachableLine path
  | .settings (.directory path)      => directoryLine path
  | .settings (.closed path)         => closedLine path
  | .settings (.undecodable path)    => undecodableLine path
  | .settings .endless               => endlessLine
  | .settings (.abandoned reason)    => reason
  | .settings (.fault f)             => f.report.line
  | .log f                           => f.message
  | .index (.fault f)                => f.report.line
  | .index (.nested _)               => "a nested annotation is not valid"
  | .index (.badValue b)             => b.message
  | .index (.unreachable path)       => unreachableLine path
  | .index (.directory path)         => directoryLine path
  | .index (.closed path)            => closedLine path
  | .index (.undecodable path)       => undecodableLine path
  | .index .endless                  => endlessLine
  | .malformed f                     => f.report.line
  | .escaped (.exit status)          => "exit with status " ++ toString status
  | .escaped (.raised message)       => message
  | .tag f                           => f.message
  | .nullCharacter                   => StorageFault.nullCharacter.message
  | .unwritable                      => "the answer cannot be written"

end TypeCatalog.Program

open TypeCatalog Program in
def main (words : List String) : IO UInt32 := do
  match Live.Hierarchy.ofWorld .empty with
  | .error f      =>
      IO.eprintln f.message
      return 1
  | .ok hierarchy =>
      let setting : Live.Setting := ⟨.empty, hierarchy⟩
      let words := words.map held
      match Command.run setting.process setting.start (← readSurroundings words) words with
      | .ok outcome => printOutcome outcome
      | .error f    =>
          IO.eprintln (released (failureLine f))
          return 1
