import TypeCatalog.Document.Token.Literal
import TypeCatalog.Document.Token.Plain
import TypeCatalog.Document.Token.Quoted
import TypeCatalog.Document.Token.Tag

/-! # Documents — from text to tokens

A key is known to be one only when the colon after it is met, so that the lexer keeps in mind, for
every level of brackets, where a key may have started; it has to end on the same line and within a
limit.  In blocks, a part further in than the one around it starts a block, and one further out
ends blocks.

* `tokens`: the tokens of a text; the last one is the end of the text, or what is wrong with it.
-/

namespace TypeCatalog.Document

/-- A place where a key may have started: how many tokens come before it, whether nothing else may
stand there, and its position. -/
structure KeyStart where
  before : Nat
  required : Bool
  index : Nat
  line : Nat
  column : Nat

/-- The text left, the columns of the blocks around it, the places where keys may have started on
each level of brackets, whether a key may start here, and the tokens so far from the last on. -/
structure Lexer where
  cursor : Cursor
  indent : Int
  outer : List Int
  starts : List (Option KeyStart)
  mayStart : Bool
  done : List Token
  count : Nat

namespace Lexer

def start (cs : List Char) : Lexer := ⟨.start cs, -1, [], [none], true, [], 0⟩

/-- The place is inside brackets. -/
def inFlow (l : Lexer) : Bool := decide (1 < l.starts.length)

def moveTo (l : Lexer) (c : Cursor) : Lexer := { l with cursor := c }

def add (l : Lexer) (t : Token) : Lexer := { l with done := t :: l.done, count := l.count + 1 }

/-- Adds a token in front of which there are `before` others. -/
def insert (l : Lexer) (before : Nat) (t : Token) : Lexer :=
  let later := l.count - before
  { l with done := l.done.take later ++ t :: l.done.drop later, count := l.count + 1 }

def allowing (l : Lexer) (mayStart : Bool) : Lexer := { l with mayStart := mayStart }

/-! ### Keys -/

/-- How far the colon may be from the start of its key. -/
def farthest : Nat := 1024

/-- The key has to end on its line and within the limit. -/
def isStale (c : Cursor) (k : KeyStart) : Bool :=
  k.line != c.line || decide (farthest < c.index - k.index)

/-- Gives up the start of a key, which is an error if nothing else may stand there. -/
def giveUp (k : Option KeyStart) : Except Fault (Option KeyStart) :=
  if (k.map KeyStart.required).getD false then .error .malformed else .ok none

/-- Gives up the starts of keys that cannot end any more. -/
def dropStale (l : Lexer) : Except Fault Lexer := do
  let starts ← l.starts.mapM fun k =>
    if (k.map (isStale l.cursor)).getD false then giveUp k else pure k
  return { l with starts := starts }

/-- Puts a start of a key, or none, in place of the one on the current level. -/
def replaceStart (l : Lexer) (k : Option KeyStart) : Except Fault Lexer := do
  let _ ← giveUp l.starts.head?.join
  return { l with starts := k :: l.starts.tail }

/-- A key may start here. -/
def saveStart (l : Lexer) : Except Fault Lexer :=
  let c := l.cursor
  let required := !l.inFlow && l.indent == (c.column : Int)
  if l.mayStart then l.replaceStart (some ⟨l.count, required, c.index, c.line, c.column⟩) else .ok l

/-! ### Blocks -/

/-- Ends the blocks of `outer` that are further in than `column`. -/
def endBlocks (column : Int) : (outer : List Int) → Lexer → Lexer
  | [],         l => l
  | i :: outer, l =>
      if column < l.indent then
        endBlocks column outer { l.add .blockEnd with indent := i, outer := outer }
      else l

/-- Ends the blocks that are further in than `column`. -/
def unwind (l : Lexer) (column : Int) : Lexer :=
  if l.inFlow then l else l.endBlocks column l.outer

/-- Starts a block with the token `t`, in front of which there are `before` others, if `column` is
further in than the block around it. -/
def startBlock (l : Lexer) (column : Int) (before : Nat) (t : Token) : Lexer :=
  if !l.inFlow && decide (l.indent < column) then
    { l.insert before t with indent := column, outer := l.indent :: l.outer }
  else l

/-! ### Tokens -/

/-- The mark of a document's start or end, or a directive. -/
def atMargin (l : Lexer) (t : Token) (after : Cursor) : Except Fault Lexer := do
  let l ← (l.unwind (-1)).replaceStart none
  return ((l.allowing false).add t).moveTo after

/-- An opening bracket. -/
def opening (l : Lexer) (t : Token) : Except Fault Lexer := do
  let l ← l.saveStart
  return { ((l.allowing true).add t).moveTo l.cursor.step with starts := none :: l.starts }

/-- A closing bracket. -/
def closing (l : Lexer) (t : Token) : Except Fault Lexer := do
  let l ← l.replaceStart none
  if !l.inFlow then throw .malformed
  return { ((l.allowing false).add t).moveTo l.cursor.step with starts := l.starts.tail }

def comma (l : Lexer) : Except Fault Lexer := do
  let l ← (l.allowing true).replaceStart none
  return (l.add .comma).moveTo l.cursor.step

/-- The dash of an item. -/
def dash (l : Lexer) : Except Fault Lexer := do
  if !l.inFlow && !l.mayStart then throw .malformed
  let l := l.startBlock l.cursor.column l.count .sequenceStart
  let l ← (l.allowing true).replaceStart none
  return (l.add .entry).moveTo l.cursor.step

/-- The question mark of a key. -/
def question (l : Lexer) : Except Fault Lexer := do
  if !l.inFlow && !l.mayStart then throw .malformed
  let l := l.startBlock l.cursor.column l.count .mappingStart
  let l ← (l.allowing (!l.inFlow)).replaceStart none
  return (l.add .key).moveTo l.cursor.step

/-- The colon of a value; if a key has started, its token is put in front of it. -/
def colon (l : Lexer) : Except Fault Lexer := do
  match l.starts with
  | some k :: starts =>
      let l := { l.insert k.before .key with starts := none :: starts }
      let l := l.startBlock k.column k.before .mappingStart
      return ((l.allowing false).add .value).moveTo l.cursor.step
  | _                =>
      if !l.inFlow && !l.mayStart then throw .malformed
      let l := l.startBlock l.cursor.column l.count .mappingStart
      let l ← (l.allowing (!l.inFlow)).replaceStart none
      return (l.add .value).moveTo l.cursor.step

/-- An alias, an anchor or a tag: part of what may be a key. -/
def property (l : Lexer) (r : Option (Token × Cursor)) : Except Fault Lexer := do
  let l ← l.saveStart
  match r with
  | some (t, c) => return ((l.allowing false).add t).moveTo c
  | none        => throw .malformed

def quotedScalar (l : Lexer) (quote : Char) : Except Fault Lexer := do
  let l ← l.saveStart
  let (cs, c) ← l.cursor.quoted quote
  return ((l.allowing false).add (.scalar false (String.ofList cs))).moveTo c

def plainScalar (l : Lexer) : Except Fault Lexer := do
  let l ← l.saveStart
  let p := l.cursor.plain l.inFlow (l.indent + 1)
  let text := String.ofList (Text.held p.text)
  return ((l.allowing p.crossed).add (.scalar true text)).moveTo p.after

def blockScalar (l : Lexer) (folded : Bool) : Except Fault Lexer := do
  let l ← (l.allowing true).replaceStart none
  let (cs, c) ← l.cursor.blockScalar folded l.indent
  return (l.add (.scalar false (String.ofList (Text.held cs)))).moveTo c

/-! ### Steps -/

/-- The token that starts with `d`, which is at the cursor. -/
def token (l : Lexer) (d : Char) : Except Fault Lexer :=
  let c := l.cursor
  let ends := endsWord c.step.rest
  if c.column == 0 && d == '%' then
    match c.directive? with
    | some (t, after) => l.atMargin (.directive t) after
    | none            => .error .malformed
  else if c.atStart then l.atMargin .documentStart (c.advance 3)
  else if c.atFinish then l.atMargin .documentEnd (c.advance 3)
  else if d == '[' then l.opening .openBracket
  else if d == '\x7b' then l.opening .openBrace
  else if d == ']' then l.closing .closeBracket
  else if d == '\x7d' then l.closing .closeBrace
  else if d == ',' then l.comma
  else if d == '-' && ends then l.dash
  else if d == '?' && (l.inFlow || ends) then l.question
  else if d == ':' && (l.inFlow || ends) then l.colon
  else if d == '*' then l.property (c.name?.map fun r => (.alias r.1, r.2))
  else if d == '&' then l.property (c.name?.map fun r => (.anchor r.1, r.2))
  else if d == '!' then l.property (c.tag?.map fun r => (.tag r.1 r.2.1, r.2.2))
  else if d == '|' && !l.inFlow then l.blockScalar false
  else if d == '>' && !l.inFlow then l.blockScalar true
  else if d == Text.singleQuote || d == Text.doubleQuote then l.quotedScalar d
  else if c.startsPlain l.inFlow then l.plainScalar
  else .error .malformed

/-- The lexer after the next token, and the tokens of the blocks that end before it. -/
def next (l : Lexer) : Except Fault Lexer := do
  let (c, broken) := l.cursor.skip
  let l := { l with cursor := c, mayStart := l.mayStart || (broken && !l.inFlow) }
  let l ← l.dropStale
  let l := l.unwind c.column
  match c.rest with
  | []     =>
      let l ← (l.unwind (-1)).replaceStart none
      return l.add .finish
  | d :: _ => l.token d

/-- How many of the tokens are settled: those before the first place where a key may have
started. -/
def settled (l : Lexer) : Nat :=
  (l.starts.filterMap fun k => k.map KeyStart.before).foldl min l.count

/-- The settled tokens, and then what is wrong after them. -/
def brokenBy (l : Lexer) (f : Fault) : List Token :=
  match l.dropStale with
  | .error f => (Token.broken f :: l.done).reverse
  | .ok l'   => (Token.broken f :: l'.done.drop (l'.count - l'.settled)).reverse

/-- The tokens of the text left.  Every step but the last takes a character. -/
def run : (steps : Nat) → Lexer → List Token
  | 0,         l => (Token.broken .malformed :: l.done).reverse
  | steps + 1, l =>
      match l.next with
      | .error f => l.brokenBy f
      | .ok l'   =>
          match l'.done with
          | .finish :: _ => l'.done.reverse
          | _            => run steps l'

end Lexer

/-- The tokens of a text. -/
def tokens (cs : List Char) : List Token := (Lexer.start cs).run (cs.length + 1)

end TypeCatalog.Document
