import TypeCatalog.Scalar

/-! # Knots

A value that is in itself has no end when it is unfolded.  It is given by a table of its parts, in
which a part stands as its place.  Places past the end of the table count as nothing.

* `Layer`: one level of a value, whatever stands for the parts in it.
* `Cells.ends`: unfolding from a place comes to an end.
* `Knot`: a place from which unfolding does not.
-/

namespace TypeCatalog

/-- A scalar, a set of scalars, a list, a list of pairs, or a mapping from scalars. -/
inductive Layer (α : Type) where
  | scalar (s : Scalar)
  | set (items : List Scalar)
  | list (items : List α)
  | pairs (items : List (α × α))
  | dict (entries : List (Scalar × α))

namespace Layer

variable {α β : Type}

instance : Inhabited (Layer α) := ⟨.scalar .null⟩

def map (f : α → β) : Layer α → Layer β
  | .scalar s => .scalar s
  | .set ss   => .set ss
  | .list xs  => .list (xs.map f)
  | .pairs ps => .pairs (ps.map fun p => (f p.1, f p.2))
  | .dict es  => .dict (es.map fun e => (e.1, f e.2))

/-- The parts, in order. -/
def parts : Layer α → List α
  | .scalar _ => []
  | .set _    => []
  | .list xs  => xs
  | .pairs ps => ps.flatMap fun p => [p.1, p.2]
  | .dict es  => es.map Prod.snd

/-- A layer depends on what stands for its parts only. -/
theorem map_congr {f g : α → β} {l : Layer α} (h : ∀ x ∈ l.parts, f x = g x) :
    l.map f = l.map g := by
  cases l with
  | scalar s | set ss => rfl
  | list xs => exact congrArg list (List.map_congr_left h)
  | pairs ps =>
      refine congrArg pairs (List.map_congr_left fun p hp => Prod.ext (h _ ?_) (h _ ?_)) <;>
        exact List.mem_flatMap.2 ⟨p, hp, by simp⟩
  | dict es =>
      exact congrArg dict (List.map_congr_left fun e he =>
        Prod.ext rfl (h _ (List.mem_map_of_mem he)))

end Layer

/-- The parts of values; in each of them its own parts stand as their places. -/
abbrev Cells : Type := Array (Layer Nat)

namespace Cells

/-- The part at a place. -/
def layer (cells : Cells) (i : Nat) : Layer Nat := cells.getD i default

/-- Unfolding from a place ends within `depth` levels. -/
def ends (cells : Cells) : (depth : Nat) → Nat → Bool
  | 0,         _ => false
  | depth + 1, i => (cells.layer i).parts.all (ends cells depth)

/-- The number of levels that unfolding has if it ends: no place is met twice on the way. -/
def depth (cells : Cells) : Nat := cells.size + 1

end Cells

/-- A place in a table from which unfolding does not end. -/
structure Knot where
  cells : Cells
  root : Nat
  endless : cells.ends cells.depth root = false

end TypeCatalog
