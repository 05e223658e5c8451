import TypeCatalog.Event

/-! # Live classes — processes

A process is seen through what it has loaded, what importing a module does to it, and which
attributes its objects have.  `Process` asks nothing else of it, so that everything said about
loading holds whatever importing runs.
-/

namespace TypeCatalog.Live

/-- What leaves running code without being an answer: a request to exit, or a failure raised while
an attribute is read. -/
inductive Escape where
  | exit (status : Int)
  | raised (message : String)
  deriving DecidableEq, Repr

/-- What importing a module comes to: the module; no such module here or further in; a failure of
the module's own code; or an escape. -/
inductive Import (Obj : Type) where
  | module (m : Obj)
  | missing
  | failed
  | escaped (e : Escape)

/-- What reading an attribute comes to.  An attribute that holds nothing counts as absent. -/
inductive Attribute (Obj : Type) where
  | present (o : Obj)
  | absent
  | escaped (e : Escape)

/-- What a class says when asked whether another one is below it. -/
inductive Subclassing where
  | answer (b : Bool)
  | refused
  | failed
  deriving DecidableEq, Repr

/-- A process with states `σ`. -/
structure Process (σ Obj Class : Type) where
  /-- The module with a name, if it is loaded. -/
  loaded? : σ → String → Option Obj
  importModule : σ → String → Import Obj × σ
  /-- What a bare name stands for everywhere. -/
  builtin? : σ → String → Option Obj
  member : σ → Obj → String → Attribute Obj
  /-- An object as a class, or else the name of its type. -/
  asClass : Obj → Except String Class
  qualifiedName : Class → String
  isSubclass : σ → (candidate base : Class) → Subclassing

end TypeCatalog.Live
