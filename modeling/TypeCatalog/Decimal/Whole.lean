import TypeCatalog.Decimal.Reading
import TypeCatalog.Text.Blank
import TypeCatalog.Text.Digits
import TypeCatalog.Text.Pieces

/-! # Decimal numbers — numbers as typed

A number may be typed with blanks around it, a sign, and digits of any script.  Between the digits
of a whole number there may be single underscores.

* `unpadded`: a number without the blanks around it.
* `whole?`: the whole number that a text is typed for.
-/

namespace TypeCatalog.Decimal

/-! ### Blanks and scripts -/

/-- The characters that separate units of information; they are no blanks around a number. -/
def isSeparator (c : Char) : Bool := decide (0x1C ≤ c.toNat) && decide (c.toNat ≤ 0x1F)

def isPadding (c : Char) : Bool := Text.isBlank c && !isSeparator c

/-- `cs` without the blanks around it. -/
def unpadded (cs : List Char) : List Char :=
  ((cs.dropWhile isPadding).reverse.dropWhile isPadding).reverse

/-- The digit from zero to nine that a digit of any script stands for. -/
def plainDigit (c : Char) : Char :=
  match Text.digit? c with
  | some n => Char.ofNat ('0'.toNat + n)
  | none   => c

/-! ### Whole numbers -/

/-- The digits of one group, of which there has to be at least one. -/
def groupDigits? (cs : List Char) : Option (List Nat) :=
  if cs.isEmpty then none else cs.mapM Text.digit?

def ofDigitValues (digits : List Nat) : Nat := digits.foldl (fun n d => n * 10 + d) 0

/-- A number without sign. -/
def unsigned? (cs : List Char) : Option Nat :=
  (((Text.pieces '_' cs).mapM groupDigits?).filter fun groups =>
    decide (groups.flatten.length ≤ mostDigits)).map fun groups => ofDigitValues groups.flatten

/-- The number a text is typed for. -/
def whole? (s : String) : Option Int :=
  match unpadded s.toList with
  | '-' :: cs => (unsigned? cs).map fun n => -(n : Int)
  | '+' :: cs => (unsigned? cs).map fun n => (n : Int)
  | cs        => (unsigned? cs).map fun n => (n : Int)

end TypeCatalog.Decimal
