import TypeCatalog.Event
import TypeCatalog.Index
import TypeCatalog.Snapshot.Classes
import TypeCatalog.Stored

/-! # Snapshots — loading

The result of loading a snapshot is an index of all its classes or the first fault; there is no
index of some of them.

* `Snapshot.index`: the index of a snapshot.
* `Snapshot.load`: the index stored at a path.
-/

namespace TypeCatalog.Snapshot

/-- Why a snapshot gives no index. -/
inductive Fault where
  | missing (path : String)
  | unreadable (path reason : String)
  | invalid (path location reason : String)
  deriving DecidableEq, Repr

def Fault.report : Fault → Report
  | .missing path                 => .indexMissing path
  | .unreadable path reason       => .indexUnreadable path reason
  | .invalid path location reason => .indexInvalid path location reason

/-- How loading fails: with a fault of the snapshot; with complaints about an annotation nested in
another one, which are passed on as they are; with a scalar that stands for nothing; because there
is a directory at the path, a path that cannot be looked up, a file that cannot be opened, or one
whose bytes are no text; or because something goes on for ever. -/
inductive Failure where
  | fault (f : Fault)
  | nested (complaints : List Complaint)
  | badValue (b : Document.BadValue)
  | directory (path : String)
  | unreachable (path : String)
  | closed (path : String)
  | undecodable (path : String)
  | endless

/-- The failure of the class entry at position `i`. -/
def Failure.ofEntry (source : String) (i : Nat) : EntryFault → Failure
  | .type f            => .fault (.invalid source ("classes." ++ toString i) f.report.message)
  | .nested complaints => .nested complaints
  | .endless           => .endless

/-- The classes from position `i` on. -/
def classesFrom (source : String) : (i : Nat) → List ClassEntry → Except Failure (List ClassInfo)
  | _, []      => .ok []
  | i, e :: es =>
      match e.info with
      | .error fault => .error (.ofEntry source i fault)
      | .ok c        => (classesFrom source (i + 1) es).map (c :: ·)

/-- The index of a snapshot; `source` names the snapshot in faults. -/
def index (source : String) (s : Snapshot) : Except Failure ClassIndex :=
  (classesFrom source 0 s.classes).map .ofClasses

/-! ### Loading -/

/-- The first complaint about a document, as a fault. -/
def Failure.ofComplaint (path : String) (c : Complaint) : Failure :=
  .fault (.invalid path c.location c.cause.message)

/-- The index that a document at `path` describes. -/
def ofDocument (path : String) (v : Value) : Except Failure ClassIndex :=
  match check (Stored.orEmpty v) with
  | .valid s          => s.index path
  | .invalid c _      => .error (.ofComplaint path c)
  | .abandoned reason => .error (.fault (.unreadable path reason))

/-- An outcome together with the events on the way to it. -/
structure Loading where
  result : Except Failure ClassIndex
  events : List Event

def loaded (path : String) (index : ClassIndex) : Event :=
  ⟨"index.loaded", .info, [("path", .text path), ("classes", .int index.size)]⟩

/-- The events of a result. -/
def eventsOf (path : String) : Except Failure ClassIndex → List Event
  | .ok index => [loaded path index]
  | .error _  => []

def ofResult (path : String) (r : Except Failure ClassIndex) : Loading := ⟨r, eventsOf path r⟩

/-- Loads the index stored at `path`. -/
def load (path : String) : Stored → Loading
  | .absent            => ofResult path (.error (.fault (.missing path)))
  | .unreachable       => ofResult path (.error (.unreachable path))
  | .directory         => ofResult path (.error (.directory path))
  | .closed _          => ofResult path (.error (.closed path))
  | .undecodable       => ofResult path (.error (.undecodable path))
  | .unreadable reason => ofResult path (.error (.fault (.unreadable path reason)))
  | .unusable b        => ofResult path (.error (.badValue b))
  | .endless           => ofResult path (.error .endless)
  | .document v        => ofResult path (ofDocument path v)

end TypeCatalog.Snapshot
