import TypeCatalog.Command.Task
import TypeCatalog.Text.Columns

/-! # The command line — help pages

A help page shows how to call the program or a task, what that does, the switches, and for the
program the tasks.
-/

namespace TypeCatalog.Command.Scope

def indented (lines : List String) : List String := lines.map ("  " ++ ·)

/-- A section of a page, after an empty line. -/
def section? (title : String) (rows : List (String × String)) : List String :=
  if rows.isEmpty then [] else "" :: title :: indented (Text.definitions rows)

def switchRows (s : Scope) : List (String × String) :=
  s.switches.map fun w => (w.spelling, w.purpose)

def taskRows : Scope → List (String × String)
  | .program => Task.all.map fun t => (t.name, t.summary)
  | .task _  => []

/-- The help page. -/
def help (s : Scope) : List String :=
  [s.usage, ""] ++ indented [s.summary]
    ++ (if s.details.isEmpty then [] else "" :: indented s.details)
    ++ section? "Options:" s.switchRows ++ section? "Commands:" s.taskRows

end TypeCatalog.Command.Scope
