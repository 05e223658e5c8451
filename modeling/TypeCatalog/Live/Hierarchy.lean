import TypeCatalog.Live.Process
import TypeCatalog.Live.World

/-! # Live classes — the hierarchy

The classes of a world in the order they are made.  Each has a line: the class itself followed by
everything above it, nearest first, such that every class stands before those it derives from and
the order of its bases is kept.  Where no such order exists, or the bases do not go together, the
class cannot be made.

* `merge`: the one way to interleave the lines of the bases.
* `Hierarchy.isSubclass`: a class with a check answers by it; an abstract one also counts classes
  that have the methods it is known by, the classes registered with it, and whatever is below its
  direct subclasses; any other one goes by the line.
-/

namespace TypeCatalog.Live

/-- A class: a standard one by its name, or one of a world by its place in the order of making. -/
inductive ClassId where
  | standard (name : String)
  | defined (place : Nat)
  deriving DecidableEq, Repr

/-- A class of a world; `qualifiedName` is its name inside the module, and `form` the standard class
that gives its instances their form. -/
structure LiveClass where
  module : String
  qualifiedName : String
  bases : List ClassId
  line : List ClassId
  members : List (String × Declaration)
  regime : Regime
  form : String
  check : Option Check

/-- The classes of a world, in the order they were made, and the classes registered with others. -/
structure Hierarchy where
  classes : List LiveClass
  registrations : List (ClassId × ClassId)

def Hierarchy.empty : Hierarchy := ⟨[], []⟩

/-- Why a world cannot be set up: a base is missing or cannot be one, the bases of a class do not go
together, a class is registered with one that does not take any or with none, there is nothing to
register, classes would be below each other, or a check has no answer. -/
inductive WorldFault where
  | noBase (name : String)
  | notBase (name : String)
  | noLine (path : String)
  | mixedRegimes (path : String)
  | mixedForms (path : String)
  | noRegister (name : String)
  | noClass (name : String)
  | cycle
  | checkRefused
  | checkFailed
  deriving DecidableEq, Repr

def WorldFault.message : WorldFault → String
  | .cycle => "Refusing to create an inheritance cycle"
  | _      => ""

/-! ### Lines -/

/-- The first head that stands in no tail. -/
def nextInLine (rows : List (List ClassId)) : Option ClassId :=
  (rows.filterMap List.head?).find? fun c => rows.all fun row => !row.tail.contains c

/-- Takes `c` off the head of every row. -/
def dropHead (c : ClassId) (rows : List (List ClassId)) : List (List ClassId) :=
  rows.map fun row => if row.head? = some c then row.tail else row

/-- Interleaves the rows, keeping the order of each; every round takes a class off some row, so
that the number of classes in all of them bounds the rounds. -/
def mergeWithin : (rounds : Nat) → List (List ClassId) → Option (List ClassId)
  | 0,          rows => if rows.all List.isEmpty then some [] else none
  | rounds + 1, rows =>
      if rows.all List.isEmpty then some []
      else
        match nextInLine rows with
        | some c => (mergeWithin rounds (dropHead c rows)).map (c :: ·)
        | none   => none

def merge (rows : List (List ClassId)) : Option (List ClassId) :=
  mergeWithin rows.flatten.length rows

/-! ### Answers -/

def Check.result : Check → Subclassing
  | .refuses => .refused
  | .raises  => .failed
  | .always  => .answer true
  | .never   => .answer false

/-- The first of `cs` about which `test` does not say no. -/
def firstYes (test : ClassId → Subclassing) : List ClassId → Subclassing
  | []      => .answer false
  | c :: cs =>
      match test c with
      | .answer false => firstYes test cs
      | r             => r

namespace Hierarchy

def get? (h : Hierarchy) : ClassId → Option LiveClass
  | .standard _    => none
  | .defined place => h.classes[place]?

/-- The line of a class. -/
def line (h : Hierarchy) (c : ClassId) : List ClassId :=
  match c, h.get? c with
  | _,              some l => l.line
  | .standard name, none   => (Standard.line name).map .standard
  | .defined _,     none   => [c]

/-- The class of a world made in a module under a name. -/
def made? (h : Hierarchy) (module qualified : String) : Option ClassId :=
  (h.classes.findIdx? fun c => c.module == module && c.qualifiedName == qualified).map .defined

/-- The class with a full name, the last one made if there are several. -/
def find? (h : Hierarchy) (path : String) : Option ClassId :=
  let places := (List.range h.classes.length).filter fun place =>
    (h.classes[place]?.map fun c => c.module ++ "." ++ c.qualifiedName) == some path
  match places.getLast? with
  | some place => some (.defined place)
  | none       => (Standard.find? path).map .standard

def qualifiedName (h : Hierarchy) (c : ClassId) : String :=
  match c, h.get? c with
  | _,              some l => l.qualifiedName
  | .standard name, none   => Standard.qualifiedName name
  | .defined _,     none   => ""

def regime (h : Hierarchy) (c : ClassId) : Regime :=
  match c, h.get? c with
  | _,              some l => l.regime
  | .standard name, none   => Standard.regime name
  | .defined _,     none   => .plain

def form (h : Hierarchy) (c : ClassId) : String :=
  match c, h.get? c with
  | _,              some l => l.form
  | .standard name, none   => Standard.form name
  | .defined _,     none   => Standard.rootName

/-- The base that gives a class the form of its instances. -/
def base? (h : Hierarchy) (c : ClassId) : Option ClassId :=
  match h.get? c with
  | some l => l.bases.find? fun b => h.form b == l.form
  | none   => (h.line c)[1]?

/-! ### Methods -/

/-- Whether a class that declares members offers a method itself or refuses it: a member that is
nothing refuses it, and a class that says what is equal has no hash unless it declares one. -/
def memberMethod? (members : List (String × Declaration)) (method : String) : Option Bool :=
  match members.lookup method with
  | some .nothing => some false
  | some _        => some true
  | none          =>
      if method = "__hash__" && (members.lookup "__eq__").isSome then some false else none

/-- Whether a class itself offers a method or refuses it. -/
def method? (h : Hierarchy) (c : ClassId) (method : String) : Option Bool :=
  match c, h.get? c with
  | _,              some l => memberMethod? l.members method
  | .standard name, none   => Standard.method? name method
  | .defined _,     none   => none

/-- Along the line of a class, the method is offered before it is refused. -/
def hasMethod (h : Hierarchy) (c : ClassId) (method : String) : Bool :=
  ((h.line c).findSome? fun d => h.method? d method).getD false

/-- A class has all the methods by which `base` is known. -/
def hasMethodsOf (h : Hierarchy) (c base : ClassId) : Bool :=
  match base with
  | .standard name => !(Standard.asked name).isEmpty && (Standard.asked name).all (h.hasMethod c)
  | .defined _     => false

/-! ### Subclasses -/

/-- The check of the nearest class above `c`, itself included, that has one. -/
def checkOf (h : Hierarchy) (c : ClassId) : Option Check :=
  (h.line c).findSome? fun d => (h.get? d).bind LiveClass.check

/-- Classes can be registered with `c`. -/
def takesRegistrations (h : Hierarchy) (c : ClassId) : Bool := (h.regime c).isUnder .abstract

/-- The instances of `c` are classes; it does not tell which classes have it among their bases. -/
def isMeta (h : Hierarchy) (c : ClassId) : Bool :=
  (h.line c).contains (.standard Standard.metaName)

/-- The classes registered with `c`. -/
def registered (h : Hierarchy) (c : ClassId) : List ClassId :=
  (match c with
    | .standard name => (Standard.registered name).map .standard
    | .defined _     => [])
    ++ (h.registrations.filter fun r => r.1 == c).map Prod.snd

/-- The classes that have `c` among their bases, in the order they were made. -/
def directSubclasses (h : Hierarchy) (c : ClassId) : List ClassId :=
  (match c with
    | .standard name => (Standard.directSubclasses name).map .standard
    | .defined _     => [])
    ++ (List.range h.classes.length).filterMap fun place =>
      match h.classes[place]? with
      | some l => if l.bases.contains c then some (.defined place) else none
      | none   => none

/-- `candidate` counts as below `base`.  Registering refuses cycles, so that no chain of registered
classes and subclasses is longer than there are classes. -/
def isSubclassWithin (h : Hierarchy) (candidate : ClassId) : (depth : Nat) → (base : ClassId) →
    Subclassing
  | 0,         base => .answer ((h.line candidate).contains base)
  | depth + 1, base =>
      match h.checkOf base with
      | some check => check.result
      | none       =>
          if h.hasMethodsOf candidate base || (h.line candidate).contains base then .answer true
          else if !h.takesRegistrations base then .answer false
          else if (h.registered base).contains candidate then .answer true
          else
            match firstYes (h.isSubclassWithin candidate depth) (h.registered base) with
            | .answer false =>
                if h.isMeta base then .refused
                else firstYes (h.isSubclassWithin candidate depth) (h.directSubclasses base)
            | r             => r

def isSubclass (h : Hierarchy) (candidate base : ClassId) : Subclassing :=
  h.isSubclassWithin candidate (Standard.lines.length + h.classes.length + 1) base

/-! ### Setting up -/

def resolve (h : Hierarchy) (name : String) : Except WorldFault ClassId :=
  match h.find? name with
  | some c => .ok c
  | none   => .error (.noBase name)

/-- A class that another one can derive from. -/
def resolveBase (h : Hierarchy) (name : String) : Except WorldFault ClassId := do
  let c ← h.resolve name
  if Standard.finals.any fun n => c == .standard n then throw (.notBase name) else return c

/-- The root where no bases are given. -/
def orRoot (bases : List ClassId) : List ClassId :=
  if bases.isEmpty then [.standard Standard.rootName] else bases

/-- The regime a class declares for itself. -/
def ownRegime (isAbstract : Bool) (check : Option Check) : Regime :=
  if check.isSome then .checked else if isAbstract then .abstract else .plain

/-- The regime of a class with a regime of its own and those of its bases. -/
def jointRegime? (h : Hierarchy) (bases : List ClassId) (own : Regime) : Option Regime :=
  bases.foldlM (fun r c => r.join? (h.regime c)) own

/-- The form of the instances of a class. -/
def jointForm? (h : Hierarchy) (bases : List ClassId) : Option String :=
  bases.foldlM (fun f c => Standard.commonForm? f (h.form c)) Standard.rootName

def jointLine? (h : Hierarchy) (bases : List ClassId) : Option (List ClassId) :=
  if bases.Nodup then merge (bases.map h.line ++ [bases]) else none

/-- Makes one more class. -/
def make (h : Hierarchy) (module qualified : String) (bases : List String)
    (members : List (String × Declaration)) (isAbstract : Bool) (check : Option Check) :
    Except WorldFault Hierarchy := do
  let bases := orRoot (← bases.mapM h.resolveBase)
  let self := ClassId.defined h.classes.length
  let regime? := h.jointRegime? bases (ownRegime isAbstract check)
  match regime?, h.jointForm? bases, h.jointLine? bases with
  | some regime, some form, some above =>
      return { h with classes :=
        h.classes ++ [⟨module, qualified, bases, self :: above, members, regime, form, check⟩] }
  | none,        _,         _          => throw (.mixedRegimes qualified)
  | some _,      none,      _          => throw (.mixedForms qualified)
  | some _,      some _,    none       => throw (.noLine qualified)

mutual

/-- Makes the class a declaration asks for, and those inside it. -/
def declare (h : Hierarchy) (module qualified : String) :
    Declaration → Except WorldFault Hierarchy
  | .newClass bases members isAbstract check => do
      let h ← h.make module qualified bases members isAbstract check
      declareAll h module (qualified ++ ".") members
  | .alias _      => .ok h
  | .nothing      => .ok h
  | .value _      => .ok h
  | .instanceOf _ => .ok h

def declareAll (h : Hierarchy) (module front : String) :
    List (String × Declaration) → Except WorldFault Hierarchy
  | []           => .ok h
  | (n, d) :: ds => do
      let h ← declare h module (front ++ n) d
      declareAll h module front ds

end

/-- Counts `c` as a subclass of the abstract class `base`. -/
def register (h : Hierarchy) (base c : ClassId) : Except WorldFault Hierarchy :=
  match h.isSubclass c base with
  | .refused      => .error .checkRefused
  | .failed       => .error .checkFailed
  | .answer true  => .ok h
  | .answer false =>
      match h.isSubclass base c with
      | .refused      => .error .checkRefused
      | .failed       => .error .checkFailed
      | .answer true  => .error .cycle
      | .answer false => .ok { h with registrations := h.registrations ++ [(base, c)] }

def registerAll (h : Hierarchy) (name : String) (names : List String) :
    Except WorldFault Hierarchy :=
  match h.find? name with
  | none      => .error (.noClass name)
  | some base =>
      if h.takesRegistrations base then
        names.foldlM (fun h n => do h.register base (← h.resolve n)) h
      else .error (.noRegister name)

/-- The classes of a world. -/
def ofWorld (w : World) : Except WorldFault Hierarchy := do
  let h ← w.modules.foldlM (fun h m => declareAll h m.1 "" m.2.members) empty
  w.registers.foldlM (fun h r => h.registerAll r.1 r.2) h

end Hierarchy

end TypeCatalog.Live
