import TypeCatalog.Command.Task
import TypeCatalog.Report
import TypeCatalog.Storage
import TypeCatalog.Text.Quoted
import TypeCatalog.TypeRef

/-! # The command line — misuse

The ways to call the program wrongly, and what is said about each: as a rule how to call it, where
to find help, and the message.
-/

namespace TypeCatalog.Command

inductive Misuse where
  /-- There is no such switch; these are the closest. -/
  | unknownSwitch (name : String) (closest : List String)
  /-- There is no such task; these are the closest. -/
  | unknownTask (name : String) (closest : List String)
  | noTask
  /-- The switch takes an argument, and there is none. -/
  | argumentMissing (name : String)
  /-- The switch takes no argument, and there is one. -/
  | argumentGiven (name : String)
  | parameterMissing (name : String)
  | tooMany (words : List String)
  | notInteger (parameter text : String)
  | noFile (parameter path : String)
  | isDirectory (parameter path : String)
  /-- There is no permission to read the file. -/
  | notReadable (parameter path : String)
  /-- A path holds a null character, so that it cannot be looked for. -/
  | nullCharacter
  | badType (fault : TypeFault)
  | paramWithoutMember

namespace Misuse

/-- What may have been meant. -/
def suggestion (closest : List String) : String :=
  match closest with
  | []  => ""
  | [w] => " Did you mean " ++ Text.quote w ++ "?"
  | ws  => " (Did you mean one of: " ++ ", ".intercalate (ws.map Text.quote) ++ "?)"

/-- A value that a parameter cannot have. -/
def invalidFor (parameter reason : String) : String :=
  "Invalid value for '" ++ parameter ++ "': " ++ reason

def message : Misuse → String
  | .unknownSwitch name closest => "No such option " ++ Text.quote name ++ "." ++ suggestion closest
  | .unknownTask name closest   =>
      "No such command " ++ Text.quote name ++ "." ++ suggestion closest
  | .noTask                     => "Missing command."
  | .argumentMissing name       => "Option " ++ Text.quote name ++ " requires an argument."
  | .argumentGiven name         => "Option " ++ Text.quote name ++ " does not take a value."
  | .parameterMissing name      => "Missing argument '" ++ name ++ "'."
  | .tooMany [word]             => "Got unexpected extra argument (" ++ word ++ ")"
  | .tooMany words              =>
      "Got unexpected extra arguments (" ++ " ".intercalate words ++ ")"
  | .notInteger parameter text  =>
      invalidFor parameter (Text.quote text ++ " is not a valid integer.")
  | .noFile parameter path      =>
      invalidFor parameter ("File " ++ Text.quote path ++ " does not exist.")
  | .isDirectory parameter path =>
      invalidFor parameter ("File " ++ Text.quote path ++ " is a directory.")
  | .notReadable parameter path =>
      invalidFor parameter ("File " ++ Text.quote path ++ " is not readable.")
  | .nullCharacter              => StorageFault.nullCharacter.message
  | .badType fault              => "Invalid value: " ++ fault.report.message
  | .paramWithoutMember         => "--param requires --member"

/-- Whether it is said how to call the program. -/
def showsUsage : Misuse → Bool
  | .argumentMissing _ => false
  | .argumentGiven _   => false
  | _                  => true

/-- How to call the program, and where to find help. -/
def hints (scope : Scope) : List String :=
  [scope.usage, "Try '" ++ scope.name ++ " " ++ Switch.help.name ++ "' for help.", ""]

/-- All that is said. -/
def lines (scope : Scope) (m : Misuse) : List String :=
  (if m.showsUsage then hints scope else []) ++ ["Error: " ++ m.message]

end Misuse

end TypeCatalog.Command
