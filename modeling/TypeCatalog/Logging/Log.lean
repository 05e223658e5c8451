import TypeCatalog.Logging.Record
import TypeCatalog.Settings
import TypeCatalog.Storage

/-! # Logging — outputs

A log is set up with a level and outputs, each with a level of its own.  An event is written to
every output whose level it reaches, provided it reaches that of the log.  Setting the log up again
replaces all outputs.  A log that is set up without outputs shows warnings and worse on standard
error as they are; before a log is set up, all events go to standard output.  Around one scan the
log carries the scan's name.

* `Log.configure`: the log with the outputs of settings, up to one that cannot be opened.
* `Log.next`, `Log.writes`: what one action does to the log, and what it writes.
* `Log.run`: a sequence of actions.
-/

namespace TypeCatalog.Logging

structure Output where
  rendering : Rendering
  destination : String
  level : Level
  deriving DecidableEq, Repr

/-- The outputs that are set up, and the level below which nothing is written. -/
structure Setup where
  level : Level
  outputs : List Output
  deriving DecidableEq, Repr

/-- `setup` is absent until the log is set up for the first time. -/
structure Log where
  setup : Option Setup
  scan : Option Value
  context : Entries String Value
  storage : Storage

/-- A log that is not set up. -/
def Log.start (storage : Storage) : Log := ⟨none, none, [], storage⟩

/-! ### Setting up -/

/-- Opens the destination of an output. -/
def openDestination (s : Storage) (destination : String) :
    Except StorageFault (Storage × String) :=
  if ["stderr", "stdout"].contains destination then .ok (s, destination) else s.open? destination

/-- Opens outputs, up to one that cannot be opened. -/
def openOutputs (level : Level) :
    List OutputSettings → Storage → Storage × List Output × Option StorageFault
  | [],      s => (s, [], none)
  | o :: os, s =>
      match openDestination s o.destination with
      | .error f            => (s, [], some f)
      | .ok (s, destination) =>
          let (s, outputs, fault) := openOutputs level os s
          (s, ⟨o.rendering, destination, o.level.getD level⟩ :: outputs, fault)

/-- The log as settings set it up, and the fault of an output that cannot be opened. -/
def Log.configure (l : Log) (s : LoggingSettings) : Log × Option StorageFault :=
  let (storage, outputs, fault) := openOutputs s.level s.outputs l.storage
  ({ l with setup := some ⟨s.level, outputs⟩, storage := storage }, fault)

/-! ### Actions -/

/-- Something done to the log.  The values of an event come in order, later ones taking the place
of earlier ones with the same name.  A message is a bare text from code that has no values.  Either
may be recorded where something may have failed. -/
inductive Action where
  | configure (s : LoggingSettings)
  | setScan (name : Value)
  | clearScan
  | bind (context : Entries String Value)
  | record (level : Level) (mayFail : Bool) (event : Value) (fields : Entries String Value)
  | message (level : Level) (mayFail : Bool) (text : String)

/-- Where a record goes: to an output; as bare text to standard error, from a log without outputs;
or to standard output, from a log that is not set up. -/
inductive Target where
  | output (o : Output)
  | bare
  | unset
  deriving DecidableEq, Repr

/-- A record that is written, with the text for a log without outputs. -/
structure Written where
  target : Target
  record : Record
  bare : String

namespace Written

def destination (w : Written) : String :=
  match w.target with
  | .output o => o.destination
  | .bare     => "stderr"
  | .unset    => "stdout"

/-- The text that is written, if the record has one. -/
def text (w : Written) : Option String :=
  match w.target with
  | .output o =>
      match o.rendering with
      | .json    => w.record.json
      | .console => w.record.console ⟨0, 0⟩
  | .bare     => some w.bare
  | .unset    => w.record.console ⟨9, 30⟩

end Written

namespace Log

/-- An output takes events of the level. -/
def takes (level : Level) (o : Output) : Bool := decide (o.level.number ≤ level.number)

/-- Where bare messages of the level are shown. -/
def bareTargets (level : Level) : List Target :=
  if Level.warning.number ≤ level.number then [.bare] else []

/-- The targets of a setup for events of the level. -/
def targetsIn (s : Setup) (level : Level) : List Target :=
  if s.level.number ≤ level.number then
    match s.outputs with
    | []      => bareTargets level
    | outputs => (outputs.filter (takes level)).map .output
  else []

def circumstance (l : Log) (time : String) : Circumstance :=
  ⟨l.context, if l.setup.isSome then l.scan else none, time⟩

/-- The log after an action at a time. -/
def next (l : Log) : Action → Log
  | .configure s    => (l.configure s).1
  | .setScan name   => { l with scan := some name }
  | .clearScan      => { l with scan := none }
  | .bind context   => { l with context := Entries.putAll l.context context }
  | .record _ _ _ _ => l
  | .message _ _ _  => l

/-- A message as it is shown by a log without outputs. -/
def bareText (text : String) (mayFail : Bool) : String :=
  text ++ if mayFail then "\nNoneType: None" else ""

/-- What an action writes. -/
def writes (l : Log) (time : String) : Action → List Written
  | .record level mayFail event fields =>
      let r := (Record.ofEvent fields event mayFail).complete level (l.circumstance time)
      match l.setup with
      | none   => [⟨.unset, r.filter fun e => e.1 != "stack_info", ""⟩]
      | some s => (targetsIn s level).map fun t => ⟨t, r, (Value.ofFields r).literal⟩
  | .message level mayFail text        =>
      let r := (Record.ofMessage text mayFail).complete level (l.circumstance time)
      let targets := match l.setup with
        | none   => bareTargets level
        | some s => targetsIn s level
      targets.map fun t => ⟨t, r, bareText text mayFail⟩
  | _                                  => []

/-- The log after a sequence of actions, and all that was written. -/
def run (l : Log) (time : String) : List Action → Log × List Written
  | []      => (l, [])
  | a :: as =>
      let (l', ws) := run (l.next a) time as
      (l', l.writes time a ++ ws)

/-- The files that are there. -/
def files (l : Log) : List Path := l.storage.files.eraseDups

end Log

/-! ### Calls -/

/-- The ways to record an event: at a level, and where something may have failed. -/
def methods : List (String × Level × Bool) :=
  [("debug", .debug, false), ("info", .info, false), ("warning", .warning, false),
   ("warn", .warning, false), ("error", .error, false), ("exception", .error, true),
   ("critical", .critical, false), ("fatal", .critical, false)]

/-- The ways to record an event with values. -/
def eventMethods : List (String × Level × Bool) := methods ++ [("msg", .info, false)]

/-- An event of the level is passed on by the log. -/
def Log.isEnabled (l : Log) (level : Level) : Bool :=
  ((l.setup.map fun s => decide (s.level.number ≤ level.number))).getD true

/-- The names that the values of an event and of its logger can have, in a call. -/
def Log.admits (l : Log) (level : Level) (bound given : Entries String Value) : Bool :=
  !(bound.any fun e => e.1 == "self")
    && !(given.any fun e => ["self", "event"].contains e.1
      || (e.1 == "method_name" && l.isEnabled level))

/-- The values of an event recorded by the library. -/
def Action.ofEvent (e : Event) : Action := .record e.level false (.text e.name) e.fields

/-- The name of a scan: the given one, or `fresh` where none is given. -/
def scanName (given : Option Value) (fresh : String) : Value :=
  match given with
  | some name => if name.isTruthy then name else .text fresh
  | none      => .text fresh

/-- The texts written to a destination, in order. -/
def textsFor (destination : String) (ws : List Written) : List String :=
  (ws.filter fun w => w.destination == destination).filterMap Written.text

end TypeCatalog.Logging
