import TypeCatalog.Event
import TypeCatalog.Json.Writer
import TypeCatalog.Ordered
import TypeCatalog.Value.Literal

/-! # Logging — records

A record is what is written of an event: its values by name, its name, its level, the time, and the
scan it belongs to.  Values of the surrounding context are added where the event has none of that
name; level, time and scan take the place of values of their names.

* `Record.complete`: an event made into a record.
* `Record.json`, `Record.console`: the two ways to write a record.
-/

namespace TypeCatalog.Logging

/-- Values by name. -/
abbrev Record : Type := Entries String Value

/-- What an event happens in: the values of the context, the scan, and the time as text. -/
structure Circumstance where
  context : Entries String Value
  scan : Option Value
  time : String

namespace Record

/-- Puts the entries whose names are not there yet. -/
def addMissing (r : Record) (es : Entries String Value) : Record :=
  es.foldl (fun r e => if (r.get? e.1).isSome then r else Entries.put e.1 e.2 r) r

/-- An event with the values `fields`; a failure in progress is looked for if it `mayFail`. -/
def ofEvent (fields : Entries String Value) (event : Value) (mayFail : Bool) : Record :=
  let given := Entries.ofList fields
  let all := if mayFail then addMissing given [("exc_info", .bool true)] else given
  match event with
  | .null => all
  | event => Entries.put "event" event all

/-- A message of code without values; there is no failure in progress to go with it. -/
def ofMessage (text : String) (mayFail : Bool) : Record :=
  ("event", .text text) :: if mayFail then [("exc_info", .tuple [.null, .null, .null])] else []

/-- Puts the scan, if there is one. -/
def withScan (r : Record) : Option Value → Record
  | some scan => Entries.put "scan_id" scan r
  | none      => r

/-- The record of an event. -/
def complete (r : Record) (level : Level) (c : Circumstance) : Record :=
  let placed := Entries.put "level" (.text level.word) (addMissing r c.context)
  withScan (Entries.put "timestamp" (.text c.time) placed) c.scan

/-! ### As JSON -/

/-- The record as JSON; values without a JSON form are written as text.  There is no line for a
record some part of which cannot be written. -/
def json (r : Record) : Option String :=
  Json.write? (fun v => some v.literal) (.ofFields r)

/-! ### For reading -/

/-- How wide levels and events are at least. -/
structure Widths where
  level : Nat
  event : Nat

/-- The characters that call for quotes around a text. -/
def needsQuotes (c : Char) : Bool :=
  [' ', '\t', '=', '\r', '\n', '\x22', '\x27'].contains c

/-- A value after an equals sign. -/
def shown : Value → String
  | .text s => if s.toList.any needsQuotes then Text.quote s else s
  | v       => v.literal

def padded (width : Nat) (s : String) : String :=
  s ++ String.ofList (List.replicate (width - s.length) ' ')

/-- The values that have a place of their own on a line, in the order of their places. -/
def places (w : Widths) : List (String × (String → String)) :=
  let bracketed (s : String) : String := "[" ++ s ++ "]"
  [("timestamp", id), ("level", fun s => bracketed (padded w.level s)), ("event", padded w.event),
   ("logger", bracketed), ("logger_name", bracketed)]

/-- The names of values that are not shown with the others. -/
def reserved : List String :=
  ["", "stack", "exception", "exc_info", "timestamp", "level", "event", "logger", "logger_name"]

def named (e : String × Value) : String := e.1 ++ "=" ++ shown e.2

/-- The value without a name, which comes first, and those with a place. -/
def placed (w : Widths) (r : Record) : List String :=
  ((r.get? "").map fun v => named ("", v)).toList
    ++ (places w).filterMap fun p => (r.get? p.1).map fun v => p.2 v.plain

/-- The other values, sorted by name. -/
def others (r : Record) : List String :=
  let rest := r.filter fun e => !reserved.contains e.1
  (rest.mergeSort fun a b => decide (a.1 ≤ b.1)).map named

def withoutTrailingSpaces (s : String) : String :=
  String.ofList (s.toList.reverse.dropWhile (· == ' ')).reverse

/-- A text that is shown below the line, if there is one; there cannot be any other value. -/
def below? (r : Record) (name : String) : Option (Option String) :=
  match r.get? name with
  | none           => some none
  | some .null     => some none
  | some (.text s) => some (some s)
  | some _         => none

/-- What stands between the stack and a failure. -/
def rule : String := "\n\n" ++ String.ofList (List.replicate 79 '=') ++ "\n"

/-- The record as text for reading: a line, and below it the stack and a failure. -/
def console (w : Widths) (r : Record) : Option String := do
  let stack ← r.below? "stack"
  let failure ← r.below? "exception"
  let line := withoutTrailingSpaces
    (" ".intercalate ((r.placed w ++ r.others).filter fun s => s != ""))
  let failing := failure.isSome || ((r.get? "exc_info").map Value.isTruthy).getD false
  return line
    ++ ((stack.map fun s => "\n" ++ s ++ if failing then rule else "").getD "")
    ++ ((failure.map fun s => "\n" ++ s).getD "")

end Record

end TypeCatalog.Logging
