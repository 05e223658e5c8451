import TypeCatalog.Document.Scalar
import TypeCatalog.Ordered

/-! # Documents — nodes

A document is made of scalars, sequences and mappings, each with the kind of value it is for.  They
stand in a table in the order in which they begin, and what is in a sequence or a mapping is named
by its place, for the same part may be in several others, or in itself.

* `Node`: a part of a document.
* `Graph`: the parts of a document, with the place of the whole.
-/

namespace TypeCatalog.Document

inductive Node where
  | scalar (kind : Kind) (text : String)
  | sequence (kind : Kind) (items : List Nat)
  | mapping (kind : Kind) (entries : List (Nat × Nat))
  deriving DecidableEq, Repr

namespace Node

def kind : Node → Kind
  | .scalar k _   => k
  | .sequence k _ => k
  | .mapping k _  => k

/-- A part that was left out. -/
def missing : Node := .scalar .null ""

instance : Inhabited Node := ⟨missing⟩

end Node

structure Graph where
  nodes : Array Node
  root : Nat
  deriving DecidableEq, Repr

end TypeCatalog.Document
