import TypeCatalog.Live.Hierarchy
import TypeCatalog.Live.Process

/-! # Live classes — the modules of a world

Importing `a.b.c` imports `a`, then `a.b`, then the module itself, and stops at the first that
fails; those imported before it stay loaded.  A module that has been imported becomes an attribute
of its parent, in place of any other attribute of that name.
-/

namespace TypeCatalog.Live

/-- An object of a world. -/
inductive Obj where
  | module (name : String)
  | ofClass (c : ClassId)
  | instanceOf (c : ClassId)
  | value (type : String)
  deriving DecidableEq, Repr

/-- A world whose classes have been made. -/
structure Setting where
  world : World
  hierarchy : Hierarchy

/-- The modules that have been imported, in order. -/
abbrev Imported : Type := List String

namespace Setting

def module? (w : Setting) (name : String) : Option ModuleSpec := w.world.modules.lookup name

def isLoaded (loaded : Imported) (name : String) : Bool :=
  Standard.modules.contains name || loaded.contains name

/-! ### Importing -/

/-- A name with the names of the packages around it, outermost first. -/
def packages (name : String) : List String :=
  let parts := Text.components name
  (List.range parts.length).map fun i => Text.path (parts.take (i + 1))

/-- Runs the body of one module. -/
def runBody (w : Setting) (loaded : Imported) (name : String) : Import Obj × Imported :=
  match (w.module? name).map ModuleSpec.state with
  | some .importable  => (.module (.module name), loaded ++ [name])
  | some .loaded      => (.module (.module name), loaded ++ [name])
  | some .broken      => (.failed, loaded)
  | some .importError => (.failed, loaded)
  | some .exits       => (.escaped (.exit 3), loaded)
  | _                 => (.missing, loaded)

/-- Imports the modules `names`, each unless it is loaded, and gives the last of them. -/
def importEach (w : Setting) : (names : List String) → Imported → Import Obj × Imported
  | [],            loaded => (.missing, loaded)
  | name :: names, loaded =>
      match if isLoaded loaded name then (.module (.module name), loaded)
        else w.runBody loaded name with
      | (.module m, loaded') =>
          match names with
          | []     => (.module m, loaded')
          | _ :: _ => w.importEach names loaded'
      | r                    => r

def isBlocked (w : Setting) (name : String) : Bool :=
  (w.module? name).map ModuleSpec.state == some .blocked

def importModule (w : Setting) (loaded : Imported) (name : String) : Import Obj × Imported :=
  if w.isBlocked name then (.missing, loaded) else w.importEach (packages name) loaded

/-- Imports the modules that are loaded from the start. -/
def start (w : Setting) : Imported :=
  w.world.modules.foldl
    (fun loaded m => if m.2.state = .loaded then (w.importModule loaded m.1).2 else loaded) []

/-! ### Objects -/

/-- The object a declaration in a module stands for; none for nothing. -/
def object? (w : Setting) (module qualified : String) : Declaration → Option Obj
  | .newClass _ _ _ _ => (w.hierarchy.made? module qualified).map Obj.ofClass
  | .alias name       => (w.hierarchy.find? name).map Obj.ofClass
  | .instanceOf name  => (w.hierarchy.find? name).map Obj.instanceOf
  | .value type       => some (.value type)
  | .nothing          => none

def ofOption : Option Obj → Attribute Obj
  | some o => .present o
  | none   => .absent

/-- The standard object with a full name. -/
def standard? (name : String) : Option Obj :=
  if Standard.modules.contains name then some (.module name)
  else
    match Standard.find? name with
    | some c => some (.ofClass (.standard c))
    | none   => (Standard.objects.lookup name).map Obj.value

/-- An attribute of a module that no imported module has taken the place of. -/
def moduleMember (w : Setting) (module name : String) : Attribute Obj :=
  match w.module? module with
  | none      => ofOption (standard? (module ++ "." ++ name))
  | some spec =>
      match spec.members.lookup name with
      | some d => ofOption (w.object? module name d)
      | none   =>
          if spec.raising.contains name then .escaped (.raised ("attribute " ++ name)) else .absent

/-- The first member with the name along the line of a class. -/
def classMember (w : Setting) (name : String) (c : ClassId) : Attribute Obj :=
  let hit := (w.hierarchy.line c).findSome? fun d =>
    (w.hierarchy.get? d).bind fun l => (l.members.lookup name).map fun m => (l, m)
  match hit with
  | some (l, d) => ofOption (w.object? l.module (l.qualifiedName ++ "." ++ name) d)
  | none        => .absent

/-- An attribute that an object is given by others. -/
def givenMember (w : Setting) (loaded : Imported) : Obj → String → Attribute Obj
  | .module m,     name =>
      if loaded.contains (m ++ "." ++ name) then .present (.module (m ++ "." ++ name))
      else w.moduleMember m name
  | .ofClass c,    name => w.classMember name c
  | .instanceOf c, name => w.classMember name c
  | .value _,      _    => .absent

/-- The class an object is an instance of. -/
def classOf? (w : Setting) : Obj → Option ClassId
  | .module _     => some (.standard "types.module")
  | .ofClass c    => (Standard.metaOf? (w.hierarchy.regime c)).map .standard
  | .instanceOf c => some c
  | .value type   => (Standard.ofType? type).map .standard

/-- An attribute that an object has from the start. -/
def ownMember? (w : Setting) (o : Obj) (name : String) : Option Obj :=
  if name = "__class__" then (w.classOf? o).map .ofClass
  else match o with
    | .module _     => (Standard.moduleAttributes.lookup name).map .value
    | .ofClass c    =>
        if name = "__base__" then (w.hierarchy.base? c).map .ofClass
        else (Standard.classAttributes.lookup name).map .value
    | .instanceOf _ => if name = "__module__" then some (.value "str") else none
    | .value _      => none

def member (w : Setting) (loaded : Imported) (o : Obj) (name : String) : Attribute Obj :=
  match w.givenMember loaded o name with
  | .absent => ofOption (w.ownMember? o name)
  | r       => r

def asClass (w : Setting) : Obj → Except String ClassId
  | .ofClass c    => .ok c
  | .module _     => .error "module"
  | .value type   => .error type
  | .instanceOf c =>
      let name := w.hierarchy.qualifiedName c
      .error ((Text.components name).getLastD name)

/-- The process that has the modules of the world. -/
def process (w : Setting) : Process Imported Obj ClassId where
  loaded? loaded name := if isLoaded loaded name then some (.module name) else none
  importModule loaded name := w.importModule loaded name
  builtin? _ name := standard? ("builtins." ++ name)
  member loaded o name := w.member loaded o name
  asClass o := w.asClass o
  qualifiedName c := w.hierarchy.qualifiedName c
  isSubclass _ candidate base := w.hierarchy.isSubclass candidate base

end Setting

end TypeCatalog.Live
