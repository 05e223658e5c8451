import TypeCatalog.Command.Misuse
import TypeCatalog.Event
import TypeCatalog.Json.Writer
import TypeCatalog.Live.Process
import TypeCatalog.Settings.Load
import TypeCatalog.Snapshot.Load
import TypeCatalog.Storage
import TypeCatalog.Text.Tagged

/-! # The command line — answers

What a task comes to: lines for reading or one line of JSON, or why there is no answer.
-/

namespace TypeCatalog.Command

/-- Why a task has no answer. -/
inductive Fault where
  | settings (f : Settings.Fault)
  | index (f : Snapshot.Fault)
  | noClass (className : String)
  | noMember (className member : String)
  | noParameter (className member : String) (position : Int)

def Fault.message : Fault → String
  | .settings f                         => f.report.line
  | .index f                            => f.report.line
  | .noClass className                  => className ++ " is not in the index"
  | .noMember className member          => className ++ " has no member " ++ member
  | .noParameter className member place =>
      className ++ "." ++ member ++ " has no parameter " ++ toString place

/-- What ends the program without an answer and without a message of its own: loading settings or an
index fails other than by a fault of theirs, a file of the log cannot be opened, a reference has no
canonical name, live code escapes, the tags in a name do not match, a path holds a null character,
or an answer cannot be written. -/
inductive Failure where
  | settings (f : Settings.Failure)
  | log (f : StorageFault)
  | index (f : Snapshot.Failure)
  | malformed (f : TypeFault)
  | escaped (e : Live.Escape)
  | tag (f : Text.TagFault)
  | nullCharacter
  | unwritable

/-- What a task comes to.  `holds` is false for a question answered in the negative. -/
inductive Answer where
  | lines (holds : Bool) (lines : List String)
  | refused (f : Fault)
  | misused (m : Misuse)
  | failed (f : Failure)

/-- An answer with the events on the way to it. -/
structure Answered where
  answer : Answer
  events : List Event

namespace Answer

/-- One line of JSON. -/
def ofJson (holds : Bool) (v : Value) : Answer :=
  match Json.writePlain? v with
  | some line => .lines holds [line]
  | none      => .failed .unwritable

end Answer

end TypeCatalog.Command
