import TypeCatalog.Command.Answer
import TypeCatalog.Inspector
import TypeCatalog.Text.Columns
import TypeCatalog.Text.Half
import TypeCatalog.Text.Tagged
import TypeCatalog.TypeRef.Printer

/-! # The command line — answers about formats

* `Answer.classify`: the format of one type.
* `Answer.formats`: the whole table, by name.
-/

namespace TypeCatalog.Command.Answer

def formatFields (f : Format) : List (String × Value) :=
  [("type", .text f.type.word), ("format", (f.format.inSchema.map Value.text).getD .null)]

/-- A type with its format, for reading. -/
def formatLine (r : TypeRef) (f : Format) : String :=
  r.print ++ ": " ++ f.type.word ++ (f.format.inSchema.map fun w => " (" ++ w ++ ")").getD ""

def ofFormat (json : Bool) (r : TypeRef) (f : Format) : Answer :=
  if json then ofJson true (.ofFields (("ref", .text r.print) :: formatFields f))
  else .lines true [formatLine r f]

def classify (s : Settings) (type : String) (json : Bool) : Answered :=
  match TypeRef.ofText type with
  | .error f => ⟨.misused (.badType f), []⟩
  | .ok r    =>
      ⟨match (Inspector.ofSettings s .empty).classify r with
        | .error f => .failed (.malformed f)
        | .ok f    => ofFormat json r f,
      Inspector.setupEvents s⟩

/-- The entries of a table by name. -/
def sortedFormats (t : FormatTable) : Entries String Format :=
  t.entries.mergeSort fun a b => Text.precedes a.1 b.1

def formatsJson (es : Entries String Format) : Value :=
  .ofFields (es.map fun e => (e.1, .ofFields (formatFields e.2)))

/-- A row of the table; the name is shown without style tags. -/
def formatRow (e : String × Format) : Except Text.TagFault Text.Row := do
  return (← Text.untagged e.1, e.2.type.word, e.2.format.inSchema.getD "")

/-- The width of a line for reading. -/
def lineWidth : Nat := 80

def formatLines (es : Entries String Format) : Except Text.TagFault (List String) := do
  return Text.columns lineWidth (("name", "type", "format") :: (← es.mapM formatRow))

def ofFormats (json : Bool) (es : Entries String Format) : Answer :=
  if json then ofJson true (formatsJson es)
  else
    match formatLines es with
    | .ok table => .lines true table
    | .error f  => .failed (.tag f)

def formats (s : Settings) (json : Bool) : Answered :=
  let es := sortedFormats (Inspector.ofSettings s .empty).formats
  ⟨ofFormats json es, Inspector.setupEvents s⟩

end TypeCatalog.Command.Answer
