import TypeCatalog.Command.Answer.Indexed
import TypeCatalog.TypeRef.Printer

/-! # The command line — answers to subtype questions

* `Answer.isA`: whether one type is below another.
-/

namespace TypeCatalog.Command.Answer

def subtypeLine (subject target : TypeRef) (holds : Bool) : String :=
  subject.print ++ (if holds then " is a " else " is not a ") ++ target.print

/-- The references are printed for reading; in JSON they stay as they were given. -/
def ofSubtype (request : String × String) (refs : TypeRef × TypeRef) (json holds : Bool) :
    Answer :=
  if json then
    ofJson holds (.ofFields [("subject", .text request.1), ("target", .text request.2),
      ("is_a", .bool holds)])
  else .lines holds [subtypeLine refs.1 refs.2 holds]

def ofOutcome (request : String × String) (refs : TypeRef × TypeRef) (json : Bool) :
    Subtype.Outcome → Answer
  | .answer holds => ofSubtype request refs json holds
  | .malformed f  => .failed (.malformed f)
  | .escaped e    => .failed (.escaped e)

/-- Both references of a question. -/
def readBoth (request : String × String) : Except TypeFault (TypeRef × TypeRef) := do
  let subject ← TypeRef.ofText request.1
  let target ← TypeRef.ofText request.2
  return (subject, target)

def isA {σ Obj Class : Type} (p : Live.Process σ Obj Class) (start : σ)
    (stored : String → Stored) (s : Settings) (request : String × String)
    (index : Option String) (json : Bool) : Answered :=
  match readBoth request with
  | .error f => ⟨.misused (.badType f), []⟩
  | .ok refs =>
      withInspector stored s index fun i =>
        let t := i.isA p refs.1 refs.2 start
        ⟨ofOutcome request refs json t.outcome, t.events⟩

end TypeCatalog.Command.Answer
