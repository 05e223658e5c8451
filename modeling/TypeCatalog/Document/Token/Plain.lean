import TypeCatalog.Document.Cursor

/-! # Documents — plain scalars

A scalar without quotes may go on over several lines, which are folded into one.  It ends before a
colon that ends a word, a comment, a line that is indented less, and in brackets before the
characters that separate items.

* `Cursor.plain`: the scalar at the cursor.
-/

namespace TypeCatalog.Document.Cursor

/-- The characters that cannot start a plain scalar. -/
def indicators : List Char :=
  ['-', '?', ':', ',', '[', ']', '\x7b', '\x7d', '#', '&', '*', '!', '|', '>', '\x27', '\x22',
   '%', '@', '\x60']

/-- The brackets and separators of a collection written in brackets. -/
def isFlowChar (c : Char) : Bool := [',', '?', '[', ']', '\x7b', '\x7d'].contains c

/-- A plain scalar can start here; `flow` says that the place is inside brackets. -/
def startsPlain (flow : Bool) (c : Cursor) : Bool :=
  match c.rest with
  | []      => false
  | d :: cs =>
      if isBlankOrBreak d then false
      else if !indicators.contains d then true
      else (d == '-' || (!flow && (d == '?' || d == ':'))) && !endsWord cs

/-- A plain scalar stops before `d`, which `cs` follows. -/
def stopsPlain (flow : Bool) (d : Char) (cs : List Char) : Bool :=
  isBlankOrBreak d
    || (d == ':' && (endsWord cs
      || (flow && ((cs.head?.map fun e => [',', '[', ']', '\x7b', '\x7d'].contains e).getD false))))
    || (flow && isFlowChar d)

/-- The characters of a plain scalar up to the next blank. -/
def chunk (flow : Bool) : List Char → List Char
  | []      => []
  | d :: cs => if stopsPlain flow d cs then [] else d :: chunk flow cs

/-- What stands between two chunks of a plain scalar: the space for it, whether there is a line
break in it, and the cursor after it. -/
structure Gap where
  space : List Char
  crossed : Bool
  after : Cursor

def gap (c : Cursor) : Gap :=
  let (spaces, c) := c.takeWhile (· == ' ')
  match c.rest with
  | d :: _ =>
      if isBreak d then
        let (bs, c') := c.step.breaks (· == ' ')
        ⟨if c'.atAnyMark then [] else fold (breakOf d) bs, true, c'⟩
      else ⟨spaces, false, c⟩
  | []     => ⟨spaces, false, c⟩

/-- A scalar's text, whether a line break follows it, and the cursor after that. -/
structure Plain where
  text : List Char
  crossed : Bool
  after : Cursor

/-- A plain scalar whose further lines have at least `indent` columns in front of them.  Every
round takes a character. -/
def plainRounds (flow : Bool) (indent : Int) : (rounds : Nat) → (crossed : Bool) → Cursor → Plain
  | 0,          crossed, c => ⟨[], crossed, c⟩
  | rounds + 1, crossed, c =>
      match chunk flow c.rest with
      | []    => ⟨[], crossed, c⟩
      | piece =>
          let g := (c.advance piece.length).gap
          if g.space.isEmpty || g.after.atChar '#'
              || (!flow && decide ((g.after.column : Int) < indent)) then
            ⟨piece, g.crossed, g.after⟩
          else
            let more := plainRounds flow indent rounds g.crossed g.after
            if more.text.isEmpty then { more with text := piece }
            else { more with text := piece ++ g.space ++ more.text }

def plain (flow : Bool) (indent : Int) (c : Cursor) : Plain :=
  c.plainRounds flow indent (c.rest.length + 1) false

end TypeCatalog.Document.Cursor
