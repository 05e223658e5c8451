import TypeCatalog.Document.Fault

/-! # Documents — tokens

The parts of a document's text, in order.  Indentation shows as tokens of its own: where a block of
a sequence or a mapping starts and where it ends.
-/

namespace TypeCatalog.Document

/-- What a directive in front of a document says. -/
inductive Directive where
  | version (major : Nat)
  | handle (name front : String)
  | other

inductive Token where
  | directive (d : Directive)
  | documentStart
  | documentEnd
  | sequenceStart
  | mappingStart
  | blockEnd
  | openBracket
  | closeBracket
  | openBrace
  | closeBrace
  | comma
  | entry
  | key
  | value
  | alias (name : String)
  | anchor (name : String)
  | tag (handle : Option String) (suffix : String)
  | scalar (plain : Bool) (text : String)
  | finish
  | broken (f : Fault)

end TypeCatalog.Document
