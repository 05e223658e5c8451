import TypeCatalog.Report

/-! # Reports — makers by name

Each kind of failure has a name within its family, and parameters.  A tool makes a report from
that name and from values, some given by position and some by parameter.

* `Report.bind?`: which value goes to which parameter.
* `Report.make`: the report of a kind, or why there is none.
-/

namespace TypeCatalog.Report

/-! ### Arguments -/

/-- Values for parameters, and those for no parameter. -/
structure Binding where
  bound : List (String × Value)
  others : List (String × Value)

/-- The value of a parameter; a parameter that was left out has the default. -/
def Binding.get (b : Binding) (name : String) (default : Value) : Value :=
  (b.bound.lookup name).getD default

/-- Gives values to parameters, the first ones by position.  The first `required` have to be given,
and none can be given twice. -/
def bind? (parameters : List String) (required : Nat) (positional : List Value)
    (named : List (String × Value)) : Option Binding :=
  let first := parameters.zip positional
  let (known, others) := named.partition fun e => parameters.contains e.1
  let bound := first ++ known
  if parameters.length < positional.length then none
  else if known.any fun e => (first.lookup e.1).isSome then none
  else if (parameters.take required).all fun p => (bound.lookup p).isSome then
    some ⟨bound, others⟩
  else none

/-! ### Makers -/

/-- How reports of one kind are made. -/
structure Maker where
  parameters : List String
  make : (String → Value) → List (String × Value) → Report

/-- The makers of a family, by name. -/
def makers : Family → List (String × Maker)
  | .any          => []
  | .config       =>
      [("parse_error", ⟨["path", "reason"], fun v _ => configUnreadable (v "path") (v "reason")⟩),
       ("invalid_value", ⟨["field", "value", "reason"],
         fun v _ => configInvalid (v "field") (v "value") (v "reason")⟩),
       ("file_not_found", ⟨["path"], fun v _ => configMissing (v "path")⟩)]
  | .typeModel    =>
      [("unknown_primitive", ⟨["name"], fun v _ => unknownPrimitive (v "name")⟩),
       ("unmapped_primitive", ⟨["name"], fun v _ => unmappedPrimitive (v "name")⟩),
       ("invalid_type_ref", ⟨["text", "reason"],
         fun v _ => invalidTypeRef (v "text") (v "reason")⟩)]
  | .typeNotFound =>
      [("not_loadable", ⟨["name", "reason"], fun v _ => notLoadable (v "name") (v "reason")⟩)]
  | .indexLoad    =>
      [("file_not_found", ⟨["path"], fun v _ => indexMissing (v "path")⟩),
       ("parse_error", ⟨["path", "reason"], fun v _ => indexUnreadable (v "path") (v "reason")⟩),
       ("invalid", ⟨["path", "location", "reason"],
         fun v _ => indexInvalid (v "path") (v "location") (v "reason")⟩)]
  | .internal     => [("unexpected", ⟨["reason"], fun v others => unexpected (v "reason") others⟩)]

/-- Reports of the library's own faults take details of any name, except that of the family. -/
def admits (family : Family) (others : List (String × Value)) : Bool :=
  others.isEmpty || (family == .internal && others.all fun e => e.1 != "cls")

/-- Why a name and values make no report. -/
inductive Misfit where
  | unknownKind
  | badArguments
  deriving DecidableEq, Repr

/-- The report of the kind called `name`, made from the values given. -/
def make (family : Family) (name : String) (positional : List Value)
    (named : List (String × Value)) : Except Misfit Report :=
  match (makers family).lookup name with
  | none   => .error .unknownKind
  | some m =>
      match bind? m.parameters m.parameters.length positional named with
      | none   => .error .badArguments
      | some b =>
          if admits family b.others then .ok (m.make (fun p => b.get p .null) b.others)
          else .error .badArguments

end TypeCatalog.Report
