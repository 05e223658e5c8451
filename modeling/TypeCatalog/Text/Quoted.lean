import TypeCatalog.Text.Half
import TypeCatalog.Text.Printable

/-! # Text — quoted texts

A quoted text stands in single quotes, or in double quotes if it holds a single one and no double
one.  The quote in use, the backslash and the codes without a graphic form are escaped.
-/

namespace TypeCatalog.Text

def singleQuote : Char := '\x27'
def doubleQuote : Char := '\x22'
def backslash : Char := '\x5c'

/-- `n` in base 16, with at least `width` digits. -/
def hex (width n : Nat) : List Char :=
  let digits := Nat.toDigits 16 n
  List.replicate (width - digits.length) '0' ++ digits

/-- One code inside quotes of the given kind. -/
def escape (quote : Char) (n : Nat) : List Char :=
  let c := Char.ofNat n
  if c = quote ∨ c = backslash then [backslash, c]
  else if c = '\n' then [backslash, 'n']
  else if c = '\r' then [backslash, 'r']
  else if c = '\t' then [backslash, 't']
  else if isPrintable c then [c]
  else if n < 0x100 then backslash :: 'x' :: hex 2 n
  else if n < 0x10000 then backslash :: 'u' :: hex 4 n
  else backslash :: 'U' :: hex 8 n

/-- The quote a text is written with. -/
def quoteFor (cs : List Char) : Char :=
  if cs.contains singleQuote && !cs.contains doubleQuote then doubleQuote else singleQuote

def quoted (cs : List Char) : List Char :=
  let quote := quoteFor cs
  quote :: ((codes cs).flatMap (escape quote) ++ [quote])

/-- `s` between quotes. -/
def quote (s : String) : String := String.ofList (quoted s.toList)

end TypeCatalog.Text
