import TypeCatalog.Value.Opened

/-! # Values — parts

The parts of a value, one level down, and all values that can be met on the way into it.  There are
finitely many of them, also in a knot: they come from the places of its table.

* `Value.parts`: the parts of a value with its outermost level open.
* `Value.family`: a value and what is in it.
-/

namespace TypeCatalog

/-- The values that a table holds: those at its places, and the pairs among them. -/
def Cells.family (cells : Cells) : List Value :=
  (List.range cells.size).flatMap fun i =>
    cells.value i ::
      match cells.layer i with
      | .pairs ps => ps.map fun p => .tuple [cells.value p.1, cells.value p.2]
      | _         => []

namespace Value

/-- The items of a list or a tuple, the values of a mapping or of an annotation; a knot has the
parts of what it opens to. -/
def parts (v : Value) : List Value :=
  match v.opened with
  | .list xs         => xs
  | .tuple xs        => xs
  | .dict es         => es.map Prod.snd
  | .nested _ vs _ _ => vs.map Prod.snd
  | _                => []

mutual

/-- The value and, at whatever depth, its parts. -/
def family : Value → List Value
  | .list xs         => .list xs :: familyOfItems xs
  | .tuple xs        => .tuple xs :: familyOfItems xs
  | .dict es         => .dict es :: familyOfEntries es
  | .nested n vs k p => .nested n vs k p :: familyOfNamed vs
  | .knot k          => .knot k :: .null :: k.cells.family
  | v                => [v]

def familyOfItems : List Value → List Value
  | []      => []
  | x :: xs => family x ++ familyOfItems xs

def familyOfEntries : List (Value × Value) → List Value
  | []           => []
  | (_, v) :: es => family v ++ familyOfEntries es

def familyOfNamed : List (String × Value) → List Value
  | []           => []
  | (_, v) :: vs => family v ++ familyOfNamed vs

end

end Value

end TypeCatalog
