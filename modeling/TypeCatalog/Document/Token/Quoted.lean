import TypeCatalog.Document.Cursor
import TypeCatalog.Document.Fault
import TypeCatalog.Decimal.Reading
import TypeCatalog.Text.Half
import TypeCatalog.Text.Quoted

/-! # Documents — quoted scalars

In single quotes only the quote itself is written twice.  In double quotes a backslash escapes
characters and line breaks.  Other line breaks are folded, and the blanks around them dropped.

* `Cursor.quoted`: the scalar after the opening quote.
-/

namespace TypeCatalog.Document.Cursor

open Text (singleQuote doubleQuote backslash)

/-- The characters that one letter after a backslash stands for. -/
def escapes : List (Char × Nat) :=
  [('0', 0), ('a', 7), ('b', 8), ('t', 9), ('\t', 9), ('n', 10), ('v', 11), ('f', 12), ('r', 13),
   ('e', 27), (' ', 32), ('\x22', 34), ('/', 47), ('\x5c', 92), ('N', 0x85), ('_', 0xA0),
   ('L', 0x2028), ('P', 0x2029)]

/-- How many hexadecimal digits follow a letter after a backslash. -/
def codeWidths : List (Char × Nat) := [('x', 2), ('u', 4), ('U', 8)]

/-- What holds the character with the given code.  Halves of pairs stay apart. -/
def character (code : Nat) : Except Fault (List Char) :=
  if 0x110000 ≤ code then .error (.badValue (.character code)) else .ok (Text.ofCode code)

/-- What the characters after a backslash stand for, and the cursor after them. -/
def escaped (c : Cursor) : Except Fault (List Char × Cursor) :=
  match c.rest with
  | []      => .error .malformed
  | d :: cs =>
      match escapes.lookup d, codeWidths.lookup d with
      | some n, _          => .ok ([Char.ofNat n], c.step)
      | none,   some width =>
          let digits := cs.take width
          if digits.length = width ∧ digits.all Decimal.isHexDigit then
            (character (Decimal.natOfDigits 16 digits)).map fun e => (e, c.advance (width + 1))
          else .error .malformed
      | none,   none       =>
          if isBreak d then
            let (bs, c') := c.step.breaks isBlank
            if c'.atAnyMark then .error .malformed else .ok (bs, c')
          else .error .malformed

/-- The blanks and breaks inside quotes: breaks are folded, blanks at the ends of lines dropped. -/
def quotedGap (c : Cursor) : Except Fault (List Char × Cursor) :=
  let (blanks, c) := c.takeWhile isBlank
  match c.rest with
  | d :: _ =>
      if isBreak d then
        let (bs, c') := c.step.breaks isBlank
        if c'.atAnyMark then .error .malformed else .ok (fold (breakOf d) bs, c')
      else .ok (blanks, c)
  | []     => .error .malformed

/-- What holds the text up to the closing quote, and the cursor after it.  Every round takes a
character. -/
def quotedRounds (quote : Char) : (rounds : Nat) → Cursor → Except Fault (List Char × Cursor)
  | 0,          _ => .error .malformed
  | rounds + 1, c => do
      match c.rest with
      | []      => throw .malformed
      | d :: cs =>
          if d = quote ∧ ¬ (quote = singleQuote ∧ cs.head? = some singleQuote) then
            return ([], c.step)
          let (piece, next) ←
            if d = quote then pure ([singleQuote], c.advance 2)
            else if quote = doubleQuote ∧ d = backslash then c.step.escaped
            else if isBlankOrBreak d then c.quotedGap
            else pure (Text.hold d, c.step)
          let (more, final) ← quotedRounds quote rounds next
          return (piece ++ more, final)

/-- The scalar in the quotes whose opening one is at the cursor. -/
def quoted (quote : Char) (c : Cursor) : Except Fault (List Char × Cursor) :=
  c.step.quotedRounds quote (c.rest.length + 1)

end TypeCatalog.Document.Cursor
