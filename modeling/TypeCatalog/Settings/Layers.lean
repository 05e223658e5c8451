import TypeCatalog.Value.Parts

/-! # Settings — layers

Mappings laid over each other: a value of the upper one takes the place of one of the lower, except
that two mappings are laid over each other in turn.  Keys keep the order of the lower mapping, new
ones come after them.  Two mappings that both hold themselves may have no end when they are laid
over each other.

* `Layers.merge?`: one mapping laid over another.
-/

namespace TypeCatalog.Layers

/-- Puts entries into a mapping, one after the other. -/
def putAll (lower upper : List (Value × Value)) : List (Value × Value) :=
  upper.foldl (fun es f => Value.put f.1 f.2 es) lower

/-- The entries of the upper mapping, each laid over what the lower one has at its key, put into the
lower one. -/
def mergeBy (laid? : Option Value → Value → Option Value) (lower upper : List (Value × Value)) :
    Option (List (Value × Value)) :=
  (upper.mapM fun f => (laid? (Value.lookup f.1 lower) f.2).map (f.1, ·)).map (putAll lower)

/-- The upper value laid over the lower one, if there is one; nothing if so many levels are not
enough. -/
def overlayTo : (levels : Nat) → (lower : Option Value) → (upper : Value) → Option Value
  | 0,          _,     _     => none
  | levels + 1, lower, upper =>
      match lower.bind Value.entries?, upper.entries? with
      | some es, some fs => (mergeBy (overlayTo levels) es fs).map .dict
      | _,       _       => some upper

/-- The number of pairs of values that can be met on the way into both. -/
def levels (lower upper : Value) : Nat := lower.family.length * upper.family.length

/-- The entries of the upper mapping laid over those of the lower; there are none if that has no
end.  With more levels than there are pairs of values it has none. -/
def merge? (lower upper : List (Value × Value)) : Option (List (Value × Value)) :=
  mergeBy (overlayTo (levels (.dict lower) (.dict upper))) lower upper

end TypeCatalog.Layers
