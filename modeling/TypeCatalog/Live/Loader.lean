import TypeCatalog.Live.Process
import TypeCatalog.Report
import TypeCatalog.Text.Dotted

/-! # Live classes — loading by name

A dotted name is the path of a module followed by the path of a class inside it.  The longest
module path that is loaded, or may be imported and can be, decides; the other parts are read off
the module as attributes.  Shorter paths are tried only while no module is found.

* `Policy.admits`: which modules may be imported.
* `Loading`: the class or the reason there is none, together with the imports tried on the way and
  the state each was tried in.
-/

namespace TypeCatalog.Live

/-! ### Policy -/

/-- Whether modules may be imported at all, and if some are listed, below which names. -/
structure Policy where
  importModules : Bool
  allowed : List String
  deriving DecidableEq, Repr

def Policy.free : Policy := ⟨true, []⟩

/-- The policy lets a module be imported. -/
def Policy.admits (p : Policy) (module : String) : Bool :=
  p.importModules && (p.allowed.isEmpty || p.allowed.any fun a => Text.isBelow a module)

/-! ### Faults -/

/-- Why no class can be loaded under a name. -/
inductive LoadFlaw where
  | malformed
  | noAttribute
  | notClass (type : String)
  | noModule
  deriving DecidableEq, Repr

def LoadFlaw.reason : LoadFlaw → String
  | .malformed     => "malformed name"
  | .noAttribute   => "no such attribute"
  | .notClass type => "not a class (" ++ type ++ ")"
  | .noModule      => "no importable module"

structure LoadFault where
  name : String
  flaw : LoadFlaw
  deriving DecidableEq, Repr

def LoadFault.report (f : LoadFault) : Report := .notLoadable f.name f.flaw.reason

/-! ### Searching for the module -/

/-- An import that was tried, and the state it was tried in. -/
structure Attempt (σ : Type) where
  module : String
  before : σ

/-- Where a search for a module ends. -/
inductive Host (Obj : Type) where
  | module (m : Obj) (rest : List String)
  | none
  | escaped (e : Escape)

/-- A search: its end, the imports it tried, the events on the way, and the state it left. -/
structure Search (σ Obj : Type) where
  host : Host Obj
  attempts : List (Attempt σ)
  events : List Event
  state : σ

/-- The search preceded by one more attempt. -/
def Search.after {σ Obj : Type} (attempt : Attempt σ) (events : List Event)
    (s : Search σ Obj) : Search σ Obj :=
  { s with attempts := attempt :: s.attempts, events := events ++ s.events }

def importFailed (module : String) : Event :=
  ⟨"runtime.import_failed", .warning, [("module", .text module), ("exc_info", .bool true)]⟩

/-- The ways to cut `parts` into a module path and a path inside the module, neither of them empty,
the longest module path first. -/
def cuts (parts : List String) : List (List String × List String) :=
  (List.range (parts.length - 1)).reverse.map fun i => (parts.take (i + 1), parts.drop (i + 1))

section

variable {σ Obj Class : Type}

/-- The first cut whose module is loaded, or is admitted and can be imported. -/
def search (p : Process σ Obj Class) (policy : Policy) :
    List (List String × List String) → σ → Search σ Obj
  | [],                    s => ⟨.none, [], [], s⟩
  | (front, rest) :: more, s =>
      match p.loaded? s (Text.path front) with
      | some m => ⟨.module m rest, [], [], s⟩
      | none   =>
          if policy.admits (Text.path front) then
            match p.importModule s (Text.path front) with
            | (.module m, s')  => ⟨.module m rest, [⟨Text.path front, s⟩], [], s'⟩
            | (.missing, s')   => (search p policy more s').after ⟨Text.path front, s⟩ []
            | (.failed, s')    =>
                (search p policy more s').after ⟨Text.path front, s⟩
                  [importFailed (Text.path front)]
            | (.escaped e, s') => ⟨.escaped e, [⟨Text.path front, s⟩], [], s'⟩
          else search p policy more s

/-! ### Loading -/

/-- What loading comes to. -/
inductive Loaded (Class : Type) where
  | found (c : Class)
  | refused (fault : LoadFault)
  | escaped (e : Escape)

structure Loading (σ Class : Type) where
  result : Loaded Class
  attempts : List (Attempt σ)
  events : List Event
  state : σ

/-- Reads the attributes `path`, one off the other. -/
def follow (p : Process σ Obj Class) (s : σ) (o : Obj) : (path : List String) → Attribute Obj
  | []        => .present o
  | a :: path =>
      match p.member s o a with
      | .present o' => follow p s o' path
      | .absent     => .absent
      | .escaped e  => .escaped e

/-- The object found under a name, which has to be a class. -/
def expectClass (p : Process σ Obj Class) (name : String) : Attribute Obj → Loaded Class
  | .absent     => .refused ⟨name, .noAttribute⟩
  | .escaped e  => .escaped e
  | .present o  =>
      match p.asClass o with
      | .ok c       => .found c
      | .error type => .refused ⟨name, .notClass type⟩

/-- What the end of a search gives for a name. -/
def ofHost (p : Process σ Obj Class) (name : String) (s : σ) : Host Obj → Loaded Class
  | .module m rest => expectClass p name (follow p s m rest)
  | .none          => .refused ⟨name, .noModule⟩
  | .escaped e     => .escaped e

/-- The built-in object with a bare name. -/
def builtinAttribute (p : Process σ Obj Class) (s : σ) (name : String) : Attribute Obj :=
  match p.builtin? s name with
  | some o => .present o
  | none   => .absent

/-- Loads the class with a dotted name. -/
def load (p : Process σ Obj Class) (policy : Policy) (name : String) (s : σ) :
    Loading σ Class :=
  let parts := Text.components name
  if parts.any (· == "") then ⟨.refused ⟨name, .malformed⟩, [], [], s⟩
  else if parts.length = 1 then ⟨expectClass p name (builtinAttribute p s name), [], [], s⟩
  else
    let found := search p policy (cuts parts) s
    ⟨ofHost p name found.state found.host, found.attempts, found.events, found.state⟩

/-! ### Assignability -/

/-- Whether a class is below another, with the events on the way; a class that will not say is
taken to have said no. -/
structure Assignability where
  answer : Bool
  events : List Event

/-- The names of two classes as the fields of an event. -/
def classFields (p : Process σ Obj Class) (base candidate : Class) : List (String × Value) :=
  [("base", .text (p.qualifiedName base)), ("candidate", .text (p.qualifiedName candidate))]

def isAssignable (p : Process σ Obj Class) (s : σ) (base candidate : Class) : Assignability :=
  match p.isSubclass s candidate base with
  | .answer b => ⟨b, []⟩
  | .refused  =>
      ⟨false, [⟨"runtime.issubclass_refused", .debug, classFields p base candidate⟩]⟩
  | .failed   =>
      ⟨false, [⟨"runtime.issubclass_failed", .warning,
        classFields p base candidate ++ [("exc_info", .bool true)]⟩]⟩

end

/-- A source of live classes: it loads them by name and compares them. -/
structure ClassSource (σ Class : Type) where
  load : String → σ → Loading σ Class
  isAssignable : σ → (base candidate : Class) → Assignability

/-- The classes of a process, loaded under a policy. -/
def Process.source {σ Obj Class : Type} (p : Process σ Obj Class) (policy : Policy) :
    ClassSource σ Class :=
  ⟨Live.load p policy, Live.isAssignable p⟩

end TypeCatalog.Live
