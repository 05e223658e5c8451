import TypeCatalog.Document.Cursor
import TypeCatalog.Document.Fault

/-! # Documents — block scalars

The lines under a bar are a scalar as they stand, those under an angle bracket are folded.  The
header may say how far the lines are indented, and whether the breaks after the last line are
dropped or kept; else one of them is kept.

* `Cursor.blockScalar`: the scalar whose header is at the cursor.
-/

namespace TypeCatalog.Document.Cursor

/-- What becomes of the line breaks after the last line. -/
inductive Ending where
  | drop
  | one
  | all

/-- The header of a block scalar. -/
structure Header where
  ending : Ending
  increment : Option Nat

def ending? : Char → Option Ending
  | '+' => some .all
  | '-' => some .drop
  | _   => none

/-- A digit from one on. -/
def increment? (c : Char) : Option Nat :=
  if '1' ≤ c ∧ c ≤ '9' then some (c.toNat - '0'.toNat) else none

/-- The header after the character that opens it, in either order of its parts. -/
def header (c : Cursor) : Header × Cursor :=
  match c.rest with
  | d :: cs =>
      match ending? d, increment? d with
      | some e, _      =>
          match cs.head?.bind increment? with
          | some n => (⟨e, some n⟩, c.advance 2)
          | none   => (⟨e, none⟩, c.step)
      | none,   some n =>
          match cs.head?.bind ending? with
          | some e => (⟨e, some n⟩, c.advance 2)
          | none   => (⟨.one, some n⟩, c.step)
      | none,   none   => (⟨.one, none⟩, c)
  | []      => (⟨.one, none⟩, c)

/-- The breaks of empty lines in `cs`, the text at the cursor, and the widest indentation there. -/
def emptyLinesFrom (c : Cursor) (widest : Nat) : (cs : List Char) → List Char × Nat × Cursor
  | []      => ([], widest, c)
  | d :: cs =>
      if isBreak d then
        let (bs, w, c') := emptyLinesFrom (c.past d cs) widest cs
        (breakOf d :: bs, w, c')
      else if d = ' ' then emptyLinesFrom (c.past d cs) (max widest (c.column + 1)) cs
      else ([], widest, c)

/-- The breaks of empty lines in `cs`, the text at the cursor, with up to `indent` spaces in each
line. -/
def linesFrom (indent : Nat) (c : Cursor) : (cs : List Char) → List Char × Cursor
  | []      => ([], c)
  | d :: cs =>
      if isBreak d then
        let (bs, c') := linesFrom indent (c.past d cs) cs
        (breakOf d :: bs, c')
      else if d = ' ' ∧ c.column < indent then linesFrom indent (c.past d cs) cs
      else ([], c)

/-- The space between two lines of a block scalar; `first` and `next` are the texts at them. -/
def between (folded : Bool) (mark : Char) (breaks first next : List Char) : List Char :=
  let open? (cs : List Char) : Bool := !((cs.head?.map isBlank).getD false)
  if folded && mark == '\n' && open? first && open? next then
    (if breaks.isEmpty then [' '] else [])
  else [mark]

/-- The lines indented by `indent`, after the breaks `breaks` of empty ones: their text, the break
after the last line, the breaks after that, and the cursor.  Every round takes a line. -/
def blockRounds (folded : Bool) (indent : Nat) : (rounds : Nat) → (breaks : List Char) → Cursor →
    List Char × List Char × List Char × Cursor
  | 0,          breaks, c => ([], [], breaks, c)
  | rounds + 1, breaks, c =>
      if c.column != indent || c.rest.isEmpty then ([], [], breaks, c)
      else
        let (line, after) := c.takeWhile fun d => !isBreak d
        let mark := (after.rest.head?.map fun d => [breakOf d]).getD []
        let (bs, next) := after.step.linesFrom indent after.step.rest
        if next.column != indent || next.rest.isEmpty then (breaks ++ line, mark, bs, next)
        else
          let (more, mark', bs', c') := blockRounds folded indent rounds bs next
          let space := (mark.head?.map fun m => between folded m bs c.rest next.rest).getD []
          (breaks ++ line ++ space ++ more, mark', bs', c')

/-- The scalar whose header is at the cursor, inside a block indented by `indent`. -/
def blockScalar (folded : Bool) (indent : Int) (c : Cursor) :
    Except Fault (List Char × Cursor) :=
  let (header, c) := c.step.header
  if !endsPart c.rest then .error .malformed
  else
    match c.endLine? with
    | none   => .error .malformed
    | some c =>
        let least := max 1 (indent + 1).toNat
        let (breaks, indent, c) := match header.increment with
          | some n =>
              let indent := least + n - 1
              let (bs, c') := c.linesFrom indent c.rest
              (bs, indent, c')
          | none   =>
              let (bs, widest, c') := c.emptyLinesFrom 0 c.rest
              (bs, max least widest, c')
        let (text, mark, bs, c) := blockRounds folded indent (c.rest.length + 1) breaks c
        .ok (match header.ending with
          | .drop => (text, c)
          | .one  => (text ++ mark, c)
          | .all  => (text ++ mark ++ bs, c))

end TypeCatalog.Document.Cursor
