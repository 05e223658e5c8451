/-! # Decimal — reading numbers

Digits are read as exact naturals; a decimal `n · 10 ^ k` becomes the double nearest to it.
-/

namespace TypeCatalog.Decimal

/-- The value of a digit, letters counting from ten. -/
def digitValue (c : Char) : Nat :=
  if c.isDigit then c.toNat - '0'.toNat
  else if 'a' ≤ c ∧ c ≤ 'z' then c.toNat - 'a'.toNat + 10
  else if 'A' ≤ c ∧ c ≤ 'Z' then c.toNat - 'A'.toNat + 10
  else 0

def isHexDigit (c : Char) : Bool :=
  c.isDigit || (decide ('a' ≤ c) && decide (c ≤ 'f')) || (decide ('A' ≤ c) && decide (c ≤ 'F'))

/-- The natural number with the digits `cs` in the given base. -/
def natOfDigits (base : Nat) (cs : List Char) : Nat :=
  cs.foldl (fun n c => n * base + digitValue c) 0

/-- The double nearest to `digits · 10 ^ exponent`; beyond the range it is infinite or zero. -/
def toFloat (digits : Nat) (exponent : Int) : Float :=
  let size : Int := (Nat.toDigits 10 digits).length + exponent
  if digits = 0 then 0.0
  else if 400 < size then 1.0 / 0.0
  else if size < -400 then 0.0
  else if 0 ≤ exponent then Float.ofScientific digits false exponent.toNat
  else Float.ofScientific digits true (-exponent).toNat

/-- The double written as sign, whole digits, fraction digits and exponent. -/
def ofParts (negative : Bool) (whole fraction : List Char) (exponent : Int) : Float :=
  let x := toFloat (natOfDigits 10 (whole ++ fraction)) (exponent - fraction.length)
  if negative then -x else x

/-- A whole number written in digits has no more of them than this. -/
def mostDigits : Nat := 4300

/-- The whole number can be written in digits. -/
def hasDigits (i : Int) : Bool := decide (i.natAbs < Nat.pow 10 mostDigits)

/-- A signed whole number. -/
def intOfDigits (negative : Bool) (cs : List Char) : Int :=
  let n : Int := natOfDigits 10 cs
  if negative then -n else n

end TypeCatalog.Decimal
