/-! # Text — lines

A text ends a line with a line feed, a carriage return or both in a row, a vertical tab, a form
feed, one of three information separators, or the line breaks of Unicode.  A break at the end of the
text starts no further line.

* `lines`: the lines of a text.
-/

namespace TypeCatalog.Text

/-- The characters that end a line. -/
def endsLine (c : Char) : Bool :=
  let n := c.toNat
  (decide (0x0A ≤ n) && decide (n ≤ 0x0D)) || (decide (0x1C ≤ n) && decide (n ≤ 0x1E)) || n == 0x85
    || n == 0x2028 || n == 0x2029

/-- The lines of `cs`, after the characters `line` of the first one in reverse. -/
def linesFrom (line : List Char) : List Char → List (List Char)
  | []                 => if line.isEmpty then [] else [line.reverse]
  | '\r' :: '\n' :: cs => line.reverse :: linesFrom [] cs
  | c :: cs            =>
      if endsLine c then line.reverse :: linesFrom [] cs else linesFrom (c :: line) cs

def lines (s : String) : List String := (linesFrom [] s.toList).map String.ofList

/-- The lines of texts that are written one after the other, each with a line feed at its end. -/
def linesOf (texts : List String) : List String := lines (String.join (texts.map (· ++ "\n")))

end TypeCatalog.Text
