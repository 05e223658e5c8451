import TypeCatalog.Document.Content
import TypeCatalog.Document.Node.Grammar
import TypeCatalog.Document.Token.Lexer

/-! # Documents — reading

A text is read as one document: its tokens, the parts they describe, and the value these stand for.
A text without any parts stands for nothing.

* `read`: the value of a text, or why it has none.
-/

namespace TypeCatalog.Document

/-- The value of a text that is one document. -/
def read (text : String) : Except Fault Value := do
  let cs := withLineFeeds text.toList
  if !cs.all isAllowed then throw .malformed
  match ← Graph.ofTokens (tokens cs) with
  | some g => g.content
  | none   => return .null

end TypeCatalog.Document
