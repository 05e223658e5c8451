import TypeCatalog.Json.Reader
import TypeCatalog.Settings.Checks
import TypeCatalog.Settings.Layers
import TypeCatalog.Text.Half
import TypeCatalog.Text.Lower

/-! # Settings — environment variables

Settings can be given by variables named after the path to them, with two underscores between the
parts; case does not matter.  Variables for sections and other compound settings hold JSON, all
others the text of the setting.  A variable for a part of a compound setting is laid over the
variable for the whole.

* `Naming`: how the names of variables are made, which a caller may change.
* `read`: the sections that variables give.
-/

namespace TypeCatalog.Environment

/-- The kinds of settings, as far as variables depend on them. -/
inductive Shape where
  | scalar
  | listOf (item : Shape)
  | mappingOf (value : Shape)
  | record (fields : List (String × Shape))

namespace Shape

def output : Shape := .record [("format", .scalar), ("destination", .scalar), ("level", .scalar)]

def logging : Shape := .record [("level", .scalar), ("outputs", .listOf output)]

def resolution : Shape :=
  .record [("runtime_fallback", .scalar), ("import_modules", .scalar),
    ("allowed_module_prefixes", .listOf .scalar), ("reflexive_subtypes", .scalar)]

def format : Shape := .record [("type", .scalar), ("format", .scalar)]

def formats : Shape := .record [("overrides", .mappingOf format)]

/-- The sections of the settings. -/
def sections : List (String × Shape) :=
  [("logging", logging), ("resolution", resolution), ("formats", formats)]

def isCompound : Shape → Bool
  | .scalar => false
  | _       => true

/-- Where a name in a path leads.  A value of a mapping may turn out to be no JSON. -/
structure Target where
  shape : Shape
  lenient : Bool

/-- The setting called `name` inside a compound setting, for names that match by `same`.  Lists are
looked through to their items; any name leads to a value of a mapping. -/
def target? (same : String → String → Bool) (name : String) : Shape → Option Target
  | .scalar          => none
  | .listOf item     => target? same name item
  | .mappingOf value => some ⟨value, true⟩
  | .record fields   => (fields.find? fun f => same f.1 name).map fun f => ⟨f.2, false⟩

/-- The setting at the end of a path. -/
def follow? (same : String → String → Bool) (t : Option Target) :
    (path : List String) → Option Target
  | []        => t
  | n :: path => follow? same (t.bind fun t => t.shape.target? same n) path

end Shape

/-! ### Names -/

/-- How the names of variables are made: what they start with, what stands between the parts of a
path and how many parts there may be, whether case matters, and whether empty variables count. -/
structure Naming where
  front : String
  delimiter : String
  mostParts : Option Nat
  caseMatters : Bool
  skipsEmpty : Bool
  deriving DecidableEq, Repr

namespace Naming

def standard : Naming := ⟨"TYPEMETA__", "__", none, false, false⟩

/-- A name in the form in which names are compared. -/
def fold (n : Naming) (name : String) : String := if n.caseMatters then name else Text.lower name

def same (n : Naming) (a b : String) : Bool := n.fold a == n.fold b

/-- The variables with their names in the form for comparing; of two with one name the last
counts. -/
def variablesOf (n : Naming) (env : List (String × String)) : Entries String String :=
  Entries.ofList ((env.map fun v => (n.fold v.1, v.2)).filter fun v => !n.skipsEmpty || v.2 != "")

/-- The name of the variable for a section. -/
def sectionName (n : Naming) (name : String) : String := n.fold (n.front ++ name)

/-- The pieces of codes between the occurrences of `mark`, at most `limit` of which are cut at, if
there is a limit; `skip` codes at the front belong to an occurrence. -/
def cut (mark : List Nat) : (limit : Option Nat) → (skip : Nat) → List Nat → List (List Nat)
  | _,     _,        []      => [[]]
  | limit, skip + 1, _ :: ns => cut mark limit skip ns
  | limit, 0,        n :: ns =>
      if !mark.isEmpty && limit != some 0 && mark.isPrefixOf (n :: ns) then
        [] :: cut mark (limit.map (· - 1)) (mark.length - 1) ns
      else
        match cut mark limit 0 ns with
        | []      => [[n]]
        | p :: ps => (n :: p) :: ps

/-- The path that the rest of a variable's name stands for. -/
def pathOf (n : Naming) (rest : List Char) : List String :=
  let limit := n.mostParts.map fun k => k - 1
  (cut (Text.codes n.delimiter.toList) limit 0 (Text.codes rest)).map fun ns =>
    String.ofList (Text.ofCodes ns)

end Naming

/-! ### Reading variables -/

/-- The value of a variable: JSON for a compound setting, else its text. -/
def valueOf? (t : Option Shape.Target) (text : String) : Option Value :=
  match t with
  | some t =>
      if t.shape.isCompound && text != "" then
        match Json.read? text with
        | some v => some v
        | none   => if t.lenient then some (.text text) else none
      else some (.text text)
  | none   => some (.text text)

/-- Puts a value at a path, unless something that is no mapping stands on the way. -/
def putAt (path : List String) (v : Value) (es : List (Value × Value)) : List (Value × Value) :=
  match path with
  | []          => es
  | [n]         => Value.put (.text n) v es
  | n :: m :: r =>
      match Value.field? n es with
      | some (.dict inner) => Value.put (.text n) (.dict (putAt (m :: r) v inner)) es
      | some _             => es
      | none               => Value.put (.text n) (.dict (putAt (m :: r) v [])) es

/-- What follows `start` in a name. -/
def after? (start name : String) : Option (List Char) :=
  if start.toList.isPrefixOf name.toList then some (name.toList.drop start.length) else none

/-- The entries of a section that variables for its parts give, put to `es`; there are none if one
of the variables is malformed. -/
def partsOf? (n : Naming) (name : String) (shape : Shape) : (env : Entries String String) →
    (es : List (Value × Value)) → Option (List (Value × Value))
  | [],           es => some es
  | (k, v) :: vs, es =>
      match after? (n.sectionName name ++ n.delimiter) k with
      | none      => partsOf? n name shape vs es
      | some rest =>
          let path := n.pathOf rest
          match valueOf? (Shape.follow? n.same (some ⟨shape, false⟩) path) v with
          | none   => none
          | some w => partsOf? n name shape vs (putAt path w es)

/-- The entries that variables for the parts of a section give; without a delimiter there are no
such variables. -/
def partsGiven? (n : Naming) (name : String) (shape : Shape) (env : Entries String String) :
    Option (List (Value × Value)) :=
  if n.delimiter == "" then some [] else partsOf? n name shape env []

/-- A setting's own name, for a name in whatever case it is written. -/
def ownName (n : Naming) (fields : List (String × Shape)) (name : String) : String :=
  if n.caseMatters then name
  else ((fields.find? fun f => n.same f.1 name).map Prod.fst).getD name

/-- The names of a record's settings, in whatever case they are written. -/
def renamed (n : Naming) (shape : Shape) (es : List (Value × Value)) : List (Value × Value) :=
  match shape with
  | .record fields =>
      es.foldl (fun done e =>
        match e.1 with
        | .text k => Value.put (.text (ownName n fields k)) e.2 done
        | k       => Value.put k e.2 done) []
  | _              => es

/-- What the variables give for a section: nothing, a value, or a malformed variable. -/
inductive Given where
  | nothing
  | value (v : Value)
  | malformed

/-- The given value with its settings renamed. -/
def Given.ofValue (n : Naming) (shape : Shape) : Value → Given
  | .null    => .nothing
  | .dict es => .value (.dict (renamed n shape es))
  | v        => .value v

def section? (n : Naming) (env : Entries String String) (name : String) (shape : Shape) : Given :=
  match env.get? (n.sectionName name) with
  | none      =>
      match partsGiven? n name shape env with
      | none    => .malformed
      | some [] => .nothing
      | some es => .ofValue n shape (.dict es)
  | some text =>
      match Json.read? text with
      | none            => .malformed
      | some (.dict es) =>
          match partsGiven? n name shape env with
          | none    => .malformed
          | some fs =>
              -- nothing that variables give holds itself, so that laying over comes to its end
              .ofValue n shape (.dict ((Layers.merge? es fs).getD es))
      | some v          => .ofValue n shape v

/-- The sections that variables give; or the name of the first section with a malformed variable. -/
def read (n : Naming) (env : List (String × String)) : List (String × Shape) →
    Except String (List (Value × Value))
  | []                => .ok []
  | (name, shape) :: rest =>
      match section? n (n.variablesOf env) name shape with
      | .malformed => .error name
      | .nothing   => read n env rest
      | .value v   => (read n env rest).map ((.text name, v) :: ·)

end TypeCatalog.Environment
