import TypeCatalog.Document.Reader

/-! # Stored documents

What is found where a document is expected: nothing, or not even an answer to whether there is
something, as for a name that is too long; a directory; a file that cannot be opened, be there the
permission to read it or not, or one whose bytes encode no text; a text that is not a document, or
holds a scalar that stands for nothing or is never read to its end; or a document.  A document that
is empty or otherwise nothing counts as a mapping without entries.
-/

namespace TypeCatalog

inductive Stored where
  | absent
  | unreachable
  | directory
  | closed (permitted : Bool)
  | undecodable
  | unreadable (reason : String)
  | unusable (b : Document.BadValue)
  | endless
  | document (v : Value)

namespace Stored

/-- Something is known to be there. -/
def exists? : Stored → Bool
  | .absent      => false
  | .unreachable => false
  | _            => true

/-- What a text is that is found; `reason` is given for one that is malformed. -/
def ofText (reason text : String) : Stored :=
  match Document.read text with
  | .ok v                => .document v
  | .error .malformed    => .unreadable reason
  | .error (.badValue b) => .unusable b
  | .error .endless      => .endless

/-- What the bytes of a file are.  They are decoded as a whole, before any of the text is read. -/
def ofBytes (reason : String) (bytes : ByteArray) : Stored :=
  match String.fromUTF8? bytes with
  | some text => ofText reason text
  | none      => .undecodable

/-- A document, or the empty mapping instead of one that holds nothing. -/
def orEmpty (v : Value) : Value := if v.isTruthy then v else .dict []

end Stored

end TypeCatalog
