/-! # Documents — positions

A cursor is a place in the text of a document: what is left of it, how many characters came before,
and the line and column, which decide how nested a part is.  Between parts there may be spaces,
line breaks and comments.

* `Cursor.skip`: the next part of a document.
-/

namespace TypeCatalog.Document

structure Cursor where
  rest : List Char
  index : Nat
  line : Nat
  column : Nat

/-! ### Characters -/

def isBreak (c : Char) : Bool :=
  c == '\n' || c == Char.ofNat 0x85 || c == Char.ofNat 0x2028 || c == Char.ofNat 0x2029

/-- The break that a break character stands for: the next-line character is a line feed. -/
def breakOf (c : Char) : Char := if c = Char.ofNat 0x85 then '\n' else c

def isBlank (c : Char) : Bool := c == ' ' || c == '\t'

def isBlankOrBreak (c : Char) : Bool := isBlank c || isBreak c

/-- The mark of the encoding, which takes no column. -/
def encodingMark : Char := Char.ofNat 0xFEFF

/-- At the end of the text or before a blank or a line break. -/
def endsWord : List Char → Bool
  | []     => true
  | c :: _ => isBlankOrBreak c

/-- At the end of the text or of a line. -/
def endsLine : List Char → Bool
  | []     => true
  | c :: _ => isBreak c

/-- At the end of the text or of a line, or before a space. -/
def endsPart : List Char → Bool
  | []      => true
  | c :: cs => c == ' ' || endsLine (c :: cs)

/-- The characters a document may consist of. -/
def isAllowed (c : Char) : Bool :=
  let n := c.toNat
  n == 0x09 || n == 0x0A || n == 0x0D || (decide (0x20 ≤ n) && decide (n ≤ 0x7E)) || n == 0x85
    || (decide (0xA0 ≤ n) && decide (n ≤ 0xFFFD)) || decide (0x10000 ≤ n)

/-- Writes every line break of a text file as a line feed. -/
def withLineFeeds : List Char → List Char
  | '\r' :: '\n' :: cs => '\n' :: withLineFeeds cs
  | '\r' :: cs         => '\n' :: withLineFeeds cs
  | c :: cs            => c :: withLineFeeds cs
  | []                 => []

/-- A break `first` between two lines of a scalar, followed by the breaks of empty lines: a single
line feed is folded into a space. -/
def fold (first : Char) (others : List Char) : List Char :=
  if first ≠ '\n' then first :: others
  else if others.isEmpty then [' ']
  else others

namespace Cursor

def start (cs : List Char) : Cursor := ⟨cs, 0, 0, 0⟩

/-- The cursor after the character `d`, with `cs` left. -/
def past (c : Cursor) (d : Char) (cs : List Char) : Cursor :=
  if isBreak d then ⟨cs, c.index + 1, c.line + 1, 0⟩
  else ⟨cs, c.index + 1, c.line, if d = encodingMark then c.column else c.column + 1⟩

/-- The cursor after one character. -/
def step (c : Cursor) : Cursor :=
  match c.rest with
  | []      => c
  | d :: cs => c.past d cs

/-- The cursor after `n` characters. -/
def advance (c : Cursor) : (n : Nat) → Cursor
  | 0     => c
  | n + 1 => c.step.advance n

/-- Before three characters that start or end a document when they stand at the front of a line. -/
def atMark (mark : String) (c : Cursor) : Bool :=
  mark.toList.isPrefixOf c.rest && endsWord (c.rest.drop mark.length)

def atStart (c : Cursor) : Bool := c.column == 0 && c.atMark "---"

def atFinish (c : Cursor) : Bool := c.column == 0 && c.atMark "..."

def atAnyMark (c : Cursor) : Bool := c.atStart || c.atFinish

/-- Before `d`. -/
def atChar (d : Char) (c : Cursor) : Bool := c.rest.head? == some d

/-- The characters in front that satisfy `p`, and the cursor after them. -/
def takeWhile (p : Char → Bool) (c : Cursor) : List Char × Cursor :=
  let cs := c.rest.takeWhile p
  (cs, c.advance cs.length)

/-! ### Between the parts -/

/-- Skips spaces, line breaks and comments in `cs`, the text at the cursor; `comment` says that the
text starts inside one, `broken` that there was a line break before it. -/
def skipFrom (c : Cursor) : (cs : List Char) → (comment broken : Bool) → Cursor × Bool
  | [],      _,       broken => (c, broken)
  | d :: cs, comment, broken =>
      if isBreak d then skipFrom (c.past d cs) cs false true
      else if comment || d == '#' then skipFrom (c.past d cs) cs true broken
      else if d = ' ' then skipFrom (c.past d cs) cs false broken
      else (c, broken)

/-- The cursor at the next part, and whether there was a line break before it. -/
def skip (c : Cursor) : Cursor × Bool :=
  let c := if c.index == 0 && c.atChar encodingMark then c.step else c
  c.skipFrom c.rest false false

/-- Line breaks in `cs`, the text at the cursor, and what satisfies `blank` between them, up to the
mark of a document: the breaks, and the cursor after them. -/
def breaksFrom (blank : Char → Bool) (c : Cursor) : (cs : List Char) → List Char × Cursor
  | []      => ([], c)
  | d :: cs =>
      if c.atAnyMark then ([], c)
      else if isBreak d then
        let (bs, c') := breaksFrom blank (c.past d cs) cs
        (breakOf d :: bs, c')
      else if blank d then breaksFrom blank (c.past d cs) cs
      else ([], c)

/-- The breaks and blanks in front. -/
def breaks (blank : Char → Bool) (c : Cursor) : List Char × Cursor := c.breaksFrom blank c.rest

/-- The cursor at the next line, if nothing but spaces and a comment is left of this one. -/
def endLine? (c : Cursor) : Option Cursor :=
  let c := (c.takeWhile (· == ' ')).2
  let c := if c.atChar '#' then (c.takeWhile fun d => !isBreak d).2 else c
  if endsLine c.rest then some c.step else none

end Cursor

end TypeCatalog.Document
