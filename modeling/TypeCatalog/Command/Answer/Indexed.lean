import TypeCatalog.Command.Answer
import TypeCatalog.Inspector
import TypeCatalog.Path

/-! # The command line — answers from an index

Tasks that consult a snapshot load it first, so that what is recorded about loading comes before
what is recorded about the task.
-/

namespace TypeCatalog.Command.Answer

/-- The index stored at a path, if one is given. -/
def loadIndex (stored : String → Stored) : Option String → Snapshot.Loading
  | none      => ⟨.ok .empty, []⟩
  | some text =>
      let path := Path.normal text
      Snapshot.load path (stored path)

def ofIndexFailure : Snapshot.Failure → Answer
  | .fault f => .refused (.index f)
  | f        => .failed (.index f)

/-- Answers with an inspector over the index at a path. -/
def withInspector (stored : String → Stored) (s : Settings) (path : Option String)
    (f : Inspector → Answered) : Answered :=
  let l := loadIndex stored path
  match l.result with
  | .error e  => ⟨ofIndexFailure e, l.events⟩
  | .ok index =>
      let a := f (.ofSettings s index)
      ⟨a.answer, l.events ++ Inspector.setupEvents s ++ a.events⟩

end TypeCatalog.Command.Answer
