import TypeCatalog.Document.Node
import TypeCatalog.Value.Opened

/-! # Documents — what nodes stand for

Scalars stand for what their kinds say, sequences for lists, and mappings for mappings or sets.  The
parts are built one after the other: a collection is begun when it is first met, and filled when it
is its turn, so that by then it can be a part of others and of itself.  In a mapping, entries under
the key for merging bring in the entries of other mappings, which come first and give way to the
mapping's own.

* `Nodes.flatten`: a table in which a mapping has the entries it brings in.
* `Builder.fill`: one step, in which a collection gets its parts.
* `Graph.content`: the value of a document, or its first fault.
-/

namespace TypeCatalog.Document

/-- The kind is one of scalars. -/
def Kind.isScalar : Kind → Bool
  | .null | .switch | .whole | .number | .moment | .text | .bytes => true
  | _                                                             => false

/-- A collection of its kind without parts; scalars have none. -/
def Kind.emptyLayer? : Kind → Option (Layer Nat)
  | .list  => some (.list [])
  | .pairs => some (.pairs [])
  | .dict  => some (.dict [])
  | .set   => some (.set [])
  | _      => none

abbrev Nodes : Type := Array Node

namespace Nodes

def node (nodes : Nodes) (i : Nat) : Node := nodes.getD i default

def kind (nodes : Nodes) (i : Nat) : Kind := (nodes.node i).kind

def entries (nodes : Nodes) (i : Nat) : List (Nat × Nat) :=
  match nodes.node i with
  | .mapping _ es => es
  | _             => []

def put (nodes : Nodes) (i : Nat) (node : Node) : Nodes := nodes.setIfInBounds i node

/-! ### Merging -/

/-- A key for the default value is a text when it is the key of an entry. -/
def withKey (nodes : Nodes) (i : Nat) : Nodes :=
  match nodes.node i with
  | .scalar .fallback text  => nodes.put i (.scalar .text text)
  | .sequence .fallback ns  => nodes.put i (.sequence .text ns)
  | .mapping .fallback es   => nodes.put i (.mapping .text es)
  | _                       => nodes

/-- The first entry for merging, and the entries without it. -/
def takeMerge? (nodes : Nodes) : List (Nat × Nat) → Option (Nat × List (Nat × Nat))
  | []      => none
  | e :: es =>
      if nodes.kind e.1 == .merge then some (e.2, es)
      else (takeMerge? nodes es).map fun r => (r.1, e :: r.2)

/-- The entries that the value of a merging key brings in, and the table in which the mappings they
are from are flattened.  Of several mappings the later ones come first. -/
def brought (flatten : Nodes → Nat → Except Fault Nodes) (nodes : Nodes) (v : Nat) :
    Except Fault (List (Nat × Nat) × Nodes) :=
  let one (nodes : Nodes) (i : Nat) : Except Fault (List (Nat × Nat) × Nodes) :=
    match nodes.node i with
    | .mapping _ _ => (flatten nodes i).map fun nodes => (nodes.entries i, nodes)
    | _            => .error .malformed
  match nodes.node v with
  | .sequence _ items =>
      items.foldlM (fun (r : List (Nat × Nat) × Nodes) i =>
        (one r.2 i).map fun next => (next.1 ++ r.1, next.2)) ([], nodes)
  | _                 => one nodes v

/-- Gives the mapping at a place the entries it brings in, after those `done` already.  Every step
takes an entry for merging out of the table, and `merges` bounds their number. -/
def flattenAfter : (merges : Nat) → (done : List (Nat × Nat)) → Nodes → Nat → Except Fault Nodes
  | 0,          _,    _,     _ => .error .malformed
  | merges + 1, done, nodes, i =>
      match takeMerge? nodes (nodes.entries i) with
      | none           =>
          .ok ((nodes.entries i).foldl (fun nodes e => nodes.withKey e.1)
            (nodes.put i (.mapping (nodes.kind i) (done ++ nodes.entries i))))
      | some (v, rest) => do
          let (more, nodes) ← brought (flattenAfter merges [])
            (nodes.put i (.mapping (nodes.kind i) rest)) v
          flattenAfter merges (done ++ more) nodes i

/-- The number of entries in a table. -/
def size (nodes : Nodes) : Nat :=
  nodes.toList.foldl (fun n node => match node with
    | .mapping _ es => n + es.length
    | _             => n) 0

def flatten (nodes : Nodes) (i : Nat) : Except Fault Nodes :=
  flattenAfter (nodes.size + 1) [] nodes i

/-! ### Scalars -/

/-- The text of a scalar, or of a mapping taken for one: of its default value.  There is none if
that is the mapping itself again; on the way to any other, at most `steps` places are met. -/
def textTo : (steps : Nat) → Nodes → Nat → Except Fault String
  | 0,         _,     _ => .error .endless
  | steps + 1, nodes, i =>
      match nodes.node i with
      | .scalar _ text => .ok text
      | .sequence _ _  => .error .malformed
      | .mapping _ es  =>
          match es.find? fun e => nodes.kind e.1 == .fallback with
          | some e => textTo steps nodes e.2
          | none   => .error .malformed

def text (nodes : Nodes) (i : Nat) : Except Fault String := textTo (Array.size nodes + 1) nodes i

/-- The scalar that a part stands for.  A moment is not read off a mapping that is taken for one. -/
def scalar (nodes : Nodes) (i : Nat) : Except Fault Scalar :=
  match nodes.node i with
  | .scalar kind text => kind.read text
  | node              =>
      if node.kind.isScalar then do
        let text ← nodes.text i
        if node.kind = .moment then throw (.badValue .moment) else node.kind.read text
      else .error .malformed

end Nodes

/-! ### Building -/

/-- The parts of a document, those that are built, and the collections to be filled, in order. -/
structure Builder where
  nodes : Nodes
  cells : Array (Option (Layer Nat))
  waiting : List Nat

/-- Puts an entry under its key, in the place of one whose key agrees with it. -/
def putEntry (key : Scalar) (i : Nat) : List (Scalar × Nat) → List (Scalar × Nat)
  | []           => [(key, i)]
  | (k, j) :: es =>
      if k.toValue.agrees key.toValue then (k, i) :: es else (k, j) :: putEntry key i es

namespace Builder

def start (nodes : Nodes) : Builder := ⟨nodes, Array.replicate (Array.size nodes) none, []⟩

def cell? (b : Builder) (i : Nat) : Option (Layer Nat) := b.cells.getD i none

def put (b : Builder) (i : Nat) (layer : Layer Nat) : Builder :=
  { b with cells := b.cells.setIfInBounds i (some layer) }

/-- Builds a scalar, or begins a collection, unless that has been done. -/
def meet (b : Builder) (i : Nat) : Except Fault Builder :=
  if (b.cell? i).isSome then .ok b
  else
    match (b.nodes.kind i).emptyLayer? with
    | some layer => .ok { b.put i layer with waiting := b.waiting ++ [i] }
    | none       => (b.nodes.scalar i).map fun s => b.put i (.scalar s)

/-- Builds the key of an entry, which has to be a scalar. -/
def meetKey (b : Builder) (i : Nat) : Except Fault (Scalar × Builder) := do
  let b ← b.meet i
  match b.cell? i with
  | some (.scalar s) => return (s, b)
  | _                => throw .malformed

/-- Builds the key and the value of each entry. -/
def meetEntries (b : Builder) (es : List (Nat × Nat)) :
    Except Fault (List (Scalar × Nat) × Builder) :=
  es.foldlM (fun (r : List (Scalar × Nat) × Builder) e => do
    let (key, b) ← r.2.meetKey e.1
    return (putEntry key e.2 r.1, ← b.meet e.2)) ([], b)

/-- Builds the key and the value of the one entry of each item. -/
def meetPairs (b : Builder) (items : List Nat) : Except Fault (List (Nat × Nat) × Builder) :=
  items.foldlM (fun (r : List (Nat × Nat) × Builder) i =>
    match r.2.nodes.node i with
    | .mapping _ [e] => do return (r.1 ++ [e], ← (← r.2.meet e.1).meet e.2)
    | _              => throw .malformed) ([], b)

/-- Gives a collection that was begun its parts.  In what order a set is gone through is left open
by a document; here it is that of its keys. -/
def fill (b : Builder) (i : Nat) : Except Fault Builder := do
  match b.nodes.node i with
  | .sequence .list items  => return (← items.foldlM meet b).put i (.list items)
  | .sequence .pairs items =>
      let (ps, b) ← b.meetPairs items
      return b.put i (.pairs ps)
  | .mapping .dict _       =>
      let nodes ← b.nodes.flatten i
      let (es, b) ← meetEntries { b with nodes := nodes } (nodes.entries i)
      return b.put i (.dict es)
  | .mapping .set _        =>
      let nodes ← b.nodes.flatten i
      let (es, b) ← meetEntries { b with nodes := nodes } (nodes.entries i)
      return b.put i (.set (es.map Prod.fst))
  | _                      => throw .malformed

/-- Fills what is waiting, one collection in every step. -/
def run : (steps : Nat) → Builder → Except Fault Builder
  | 0,         b => .ok b
  | steps + 1, b =>
      match b.waiting with
      | []        => .ok b
      | i :: rest => do run steps (← fill { b with waiting := rest } i)

/-- The parts that are built. -/
def table (b : Builder) : Cells := b.cells.map fun c => c.getD default

end Builder

/-- What a document stands for, or its first fault. -/
def Graph.content (g : Graph) : Except Fault Value := do
  let b ← (Builder.start g.nodes).meet g.root
  let b ← b.run g.nodes.size
  return b.table.value g.root

end TypeCatalog.Document
