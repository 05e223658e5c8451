import TypeCatalog.Text.Half
import TypeCatalog.Value

/-! # Values — opened

A knot is opened one level at a time: its parts are values again, and those that come to an end are
ordinary ones.

* `Cells.value`: the value at a place of a table.
* `Value.opened`: a value with its outermost level open.
* `Value.entries?`, `Value.items?`, `Value.asText?`: what a value holds as a mapping, as a sequence,
  and as a text.
* `Cells.opened_value`: what is at a place has the layer there as its outermost level.
-/

namespace TypeCatalog

/-- A layer of values as a value. -/
def Layer.toValue : Layer Value → Value
  | .scalar s => s.toValue
  | .set ss   => .set ss
  | .list xs  => .list xs
  | .pairs ps => .list (ps.map fun p => .tuple [p.1, p.2])
  | .dict es  => .dict (es.map fun e => (e.1.toValue, e.2))

namespace Cells

/-- The value at a place, down to `depth` levels. -/
def tree (cells : Cells) : (depth : Nat) → Nat → Value
  | 0,         _ => .null
  | depth + 1, i => ((cells.layer i).map (tree cells depth)).toValue

/-- The value at a place: a knot unless unfolding ends. -/
def value (cells : Cells) (i : Nat) : Value :=
  if h : cells.ends cells.depth i = false then .knot ⟨cells, i, h⟩ else cells.tree cells.depth i

end Cells

/-- The outermost level of a knot. -/
def Knot.opened (k : Knot) : Value := ((k.cells.layer k.root).map k.cells.value).toValue

namespace Value

/-- A value with its outermost level open. -/
def opened : Value → Value
  | .knot k => k.opened
  | v       => v

/-- The entries of a mapping. -/
def entries? (v : Value) : Option (List (Value × Value)) :=
  match v.opened with
  | .dict es => some es
  | _        => none

/-- The items of a list, a tuple or a set. -/
def items? (v : Value) : Option (List Value) :=
  match v.opened with
  | .list xs  => some xs
  | .tuple xs => some xs
  | .set ss   => some (ss.map Scalar.toValue)
  | _         => none

def text? : Value → Option String
  | .text s => some s
  | _       => none

/-- A text, or the one that bytes encode. -/
def asText? : Value → Option String
  | .text s   => some s
  | .bytes bs => Text.ofBytes? bs
  | _         => none

end Value

namespace Cells

variable {cells : Cells} {d : Nat} {i : Nat}

theorem ends_succ :
    cells.ends (d + 1) i = true ↔ ∀ j ∈ (cells.layer i).parts, cells.ends d j = true := by
  rw [ends, List.all_eq_true]

/-- What ends within a number of levels ends within one more, and is the same down to there. -/
theorem ends_and_tree_succ (h : cells.ends d i = true) :
    cells.ends (d + 1) i = true ∧ cells.tree (d + 1) i = cells.tree d i := by
  induction d generalizing i with
  | zero => cases h
  | succ d ih =>
      have parts := ends_succ.1 h
      refine ⟨ends_succ.2 fun j hj => (ih (parts j hj)).1, ?_⟩
      exact congrArg Layer.toValue (Layer.map_congr fun j hj => (ih (parts j hj)).2)

theorem value_eq_tree (h : cells.ends cells.depth i = true) :
    cells.value i = cells.tree cells.depth i := by
  rw [value, dif_neg (by rw [h]; exact nofun)]

/-- What comes to an end is the layer at its place with the values at its parts. -/
theorem value_of_ends (h : cells.ends cells.depth i = true) :
    cells.value i = ((cells.layer i).map cells.value).toValue := by
  rw [value_eq_tree h, depth, tree]
  refine congrArg Layer.toValue (Layer.map_congr fun j hj => ?_)
  obtain ⟨hj, same⟩ := ends_and_tree_succ (ends_succ.1 h j hj)
  rw [value_eq_tree hj, depth, same]

/-- A knot is what its table holds at its root. -/
theorem value_root (k : Knot) : k.cells.value k.root = .knot k := by
  rw [value, dif_pos k.endless]

theorem opened_toValue (l : Layer Value) : l.toValue.opened = l.toValue := by
  cases l with
  | scalar s => cases s <;> rfl
  | set | list | pairs | dict => rfl

/-- **What is at a place**, opened, is the layer there with the values at its parts. -/
theorem opened_value (cells : Cells) (i : Nat) :
    (cells.value i).opened = ((cells.layer i).map cells.value).toValue := by
  cases h : cells.ends cells.depth i with
  | false => rw [value, dif_pos h]; rfl
  | true => rw [value_of_ends h, opened_toValue]

end Cells

end TypeCatalog
