import TypeCatalog.Text.Blank
import TypeCatalog.Text.Cells
import TypeCatalog.Text.Lines
import TypeCatalog.Text.Pieces

/-! # Text — lines of a given width

A text goes on the next line at the blanks between words; a word that is too long for a line ends in
an ellipsis.

* `wrapped`: the lines of a text, each with a given number of cells.
-/

namespace TypeCatalog.Text

/-! ### Tabs -/

/-- The distance between tab stops. -/
def tabWidth : Nat := 8

/-- Pieces before each of which there is a tab, from a cell on. -/
def untabbedFrom (used : Nat) : List (List Char) → List Char
  | []      => []
  | p :: ps =>
      let stop := (used / tabWidth + 1) * tabWidth
      List.replicate (stop - used) ' ' ++ p ++ untabbedFrom (stop + cells p) ps

/-- A line with blanks up to the next stop in place of each tab. -/
def untabbed (cs : List Char) : List Char :=
  match pieces '\t' cs with
  | []         => []
  | first :: ps => first ++ untabbedFrom (cells first) ps

/-! ### Words -/

/-- Joins each word with the blanks after it. -/
def joinBlanks : List (List Char) → List (List Char)
  | word :: blanks :: rest => (word ++ blanks) :: joinBlanks rest
  | [word]                 => [word]
  | []                     => []

/-- The words of a line with the blanks after them, and the first also with the blanks before it. -/
def words (cs : List Char) : List (List Char) :=
  match cs.splitBy fun a b => isBlank a == isBlank b with
  | []          => []
  | run :: rest =>
      if run.all isBlank then
        match joinBlanks rest with
        | []      => []
        | w :: ws => (run ++ w) :: ws
      else joinBlanks (run :: rest)

/-! ### Lines -/

/-- Fills lines with words.  `line` is the line so far, and `used` the number of cells that count
for it. -/
def fill (width : Nat) (line : List Char) (used : Nat) : List (List Char) → List (List Char)
  | []      => [line]
  | w :: ws =>
      let needed := cells (trimEnd w)
      if used + needed ≤ width then fill width (line ++ w) (used + cells w) ws
      else if line.isEmpty then fill width w (if width < needed then cells w else used) ws
      else if width < needed ∨ used ≠ 0 then line :: fill width w (cells w) ws
      else fill width (line ++ w) used ws

/-- A line without the blanks at its end that are beyond the width. -/
def withoutExcess (width : Nat) (cs : List Char) : List Char :=
  let blanks := cs.length - (trimEnd cs).length
  cs.take (cs.length - min blanks (cs.length - width))

/-- The lines for one line of a text. -/
def wrappedLine (width : Nat) (cs : List Char) : List (List Char) :=
  let line := untabbed cs
  let lines := match words line with
    | [] => [line]
    | ws => fill width [] 0 ws
  lines.map fun l => cropped width (withoutExcess width l)

def wrapped (width : Nat) (s : String) : List String :=
  (pieces '\n' s.toList).flatMap fun cs => (wrappedLine width cs).map String.ofList

/-- The number of cells for the widest line of a text. -/
def widestLine (s : String) : Nat := (lines s).foldl (fun n l => max n (cells l.toList)) 0

end TypeCatalog.Text
