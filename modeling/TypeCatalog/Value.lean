import TypeCatalog.Knot

/-! # Values

The data that documents, settings and annotations hold: scalars, sequences, sets, mappings, and
annotations nested in other annotations.  Mappings keep the order of their entries, and sets the
order in which they are gone through.  A list or mapping that goes on for ever, as one does that
holds itself, is a knot.

* `Value.agrees`: equality of values as data.  Numbers compare by value across their kinds,
  sequences by position and kind, mappings and sets without regard to order, moments with a known
  offset by the instant they are; a float that is not a number agrees with nothing, and neither does
  a knot.
-/

namespace TypeCatalog

/-- The kinds of program element an annotation can be recorded against. -/
inductive ElementKind where
  | classType
  | field
  | method
  | parameter
  | type
  deriving DecidableEq, Repr

/-- The word for a kind in recorded metadata. -/
def ElementKind.word : ElementKind → String
  | .classType => "class"
  | .field     => "field"
  | .method    => "method"
  | .parameter => "method_parameter"
  | .type      => "type"

def ElementKind.all : List ElementKind := [.classType, .field, .method, .parameter, .type]

def ElementKind.ofWord? (word : String) : Option ElementKind :=
  ElementKind.all.find? fun k => k.word == word

inductive Value where
  | null
  | bool (b : Bool)
  | int (i : Int)
  | float (x : Float)
  | notNumber
  | text (s : String)
  | bytes (bs : List UInt8)
  | date (d : Date)
  | moment (m : Moment)
  | tuple (items : List Value)
  | set (items : List Scalar)
  | list (items : List Value)
  | dict (entries : List (Value × Value))
  | nested (name : String) (values : List (String × Value)) (target : Option ElementKind)
      (position : Option Int)
  | knot (k : Knot)

instance : Inhabited Value := ⟨.null⟩

instance : Coe String Value := ⟨.text⟩

/-- A scalar as a value. -/
def Scalar.toValue : Scalar → Value
  | .null      => .null
  | .bool b    => .bool b
  | .int i     => .int i
  | .float x   => .float x
  | .notNumber => .notNumber
  | .text s    => .text s
  | .bytes bs  => .bytes bs
  | .date d    => .date d
  | .moment m  => .moment m

namespace Value

/-- A mapping with texts as keys. -/
def ofFields (fields : List (String × Value)) : Value :=
  .dict (fields.map fun f => (.text f.1, f.2))

/-- False for nothing, zero and the empty; true for everything else. -/
def isTruthy : Value → Bool
  | .null     => false
  | .bool b   => b
  | .int i    => i != 0
  | .float x  => !Decimal.isZero x
  | .text s   => s != ""
  | .bytes bs => !bs.isEmpty
  | .set ss   => !ss.isEmpty
  | .tuple xs => !xs.isEmpty
  | .list xs  => !xs.isEmpty
  | .dict es  => !es.isEmpty
  | _         => true

/-- The number a value counts as, if it is a whole one. -/
def asInt? : Value → Option Int
  | .bool b => some (if b then 1 else 0)
  | .int i  => some i
  | _       => none

/-- Agreement of values that hold no others. -/
def scalarAgrees : Value → Value → Bool
  | .null,     .null     => true
  | .text s,   .text t   => s == t
  | .bytes a,  .bytes b  => a == b
  | .date d,   .date e   => d == e
  | .moment m, .moment n => m.agrees n
  | .notNumber, .notNumber => true
  | .float x,  .float y  => Decimal.same x y
  | .float x,  v         => (v.asInt?.map (Decimal.isInt x)).getD false
  | v,         .float y  => (v.asInt?.map (Decimal.isInt y)).getD false
  | v,         w         =>
      match v.asInt?, w.asInt? with
      | some i, some j => i == j
      | _,      _      => false

/-- The same scalars, in whatever order. -/
def agreesAsSet (ss ts : List Scalar) : Bool :=
  ss.length == ts.length && ss.all fun s => ts.any fun t => scalarAgrees s.toValue t.toValue

mutual

/-- Equality of values as data. -/
def agrees : Value → Value → Bool
  | .tuple xs,          .tuple ys          => agreesEach xs ys
  | .set ss,            .set ts            => agreesAsSet ss ts
  | .list xs,           .list ys           => agreesEach xs ys
  | .dict es,           .dict fs           => es.length == fs.length && agreesWithin es fs
  | .nested n vs k p,   .nested m ws l q   =>
      n == m && k == l && p == q && vs.length == ws.length && agreesNamed vs ws
  | v,                  w                  => scalarAgrees v w

/-- Agreement item by item. -/
def agreesEach : List Value → List Value → Bool
  | [],      []      => true
  | x :: xs, y :: ys => agrees x y && agreesEach xs ys
  | _,       _       => false

/-- Each entry has one in `fs` with an agreeing key and value. -/
def agreesWithin : List (Value × Value) → List (Value × Value) → Bool
  | [],           _  => true
  | (k, v) :: es, fs => fs.any (fun f => agrees k f.1 && agrees v f.2) && agreesWithin es fs

/-- Each named value has one in `ws` with the same name that agrees with it. -/
def agreesNamed : List (String × Value) → List (String × Value) → Bool
  | [],           _  => true
  | (n, v) :: vs, ws => ws.any (fun w => n == w.1 && agrees v w.2) && agreesNamed vs ws

end

/-! ### Mappings of values

The keys of a mapping are values, so that looking one up goes by agreement. -/

/-- The value at `key`. -/
def lookup (key : Value) : List (Value × Value) → Option Value
  | []           => none
  | (k, v) :: es => if agrees k key then some v else lookup key es

/-- The value at a text key. -/
def field? (name : String) (entries : List (Value × Value)) : Option Value :=
  lookup (.text name) entries

/-- Replaces the value at `key` in place, or adds it at the end. -/
def put (key value : Value) : List (Value × Value) → List (Value × Value)
  | []           => [(key, value)]
  | (k, v) :: es => if agrees k key then (k, value) :: es else (k, v) :: put key value es

end Value

end TypeCatalog
