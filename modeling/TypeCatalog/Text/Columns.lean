import TypeCatalog.Text.Wrapped

/-! # Text — columns

Texts set side by side in columns that are as wide as their widest entry.

* `definitions`: two columns, the second without padding.
* `columns`: a table whose entries are all padded, on lines of a given width; the entries of its
  first column may need several lines.
-/

namespace TypeCatalog.Text

def blanks (n : Nat) : String := String.ofList (List.replicate n ' ')

/-- The text with blanks after it, up to a width. -/
def padded (width : Nat) (s : String) : String := s ++ blanks (width - s.length)

/-- The width of the widest text. -/
def widest (ss : List String) : Nat := ss.foldl (fun n s => max n s.length) 0

/-- What stands between two columns. -/
def gap : String := "  "

/-- Terms with their definitions beside them. -/
def definitions (rows : List (String × String)) : List String :=
  let width := widest (rows.map Prod.fst)
  rows.map fun r => padded width r.1 ++ gap ++ r.2

/-- One row of three entries; the first may take several lines. -/
abbrev Row : Type := String × String × String

/-- The lines of a row whose first column has a width. -/
def rowLines (first second third : Nat) (r : Row) : List String :=
  let beside (b c : String) : String := gap ++ padded second b ++ gap ++ padded third c
  match wrapped first r.1 with
  | []           => []
  | line :: more => (line ++ beside r.2.1 r.2.2) :: more.map (· ++ beside "" "")

/-- A table of three columns on lines of at most `lineWidth` cells.  The last two columns have the
room they need, the first what they leave. -/
def columns (lineWidth : Nat) (rows : List Row) : List String :=
  let second := widest (rows.map fun r => r.2.1)
  let third := widest (rows.map fun r => r.2.2)
  let needed := (rows.map fun r => widestLine r.1).foldl max 0
  let first := min needed (lineWidth - (second + third + 2 * gap.length))
  rows.flatMap (rowLines first second third)

end TypeCatalog.Text
