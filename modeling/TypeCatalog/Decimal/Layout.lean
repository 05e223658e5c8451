import TypeCatalog.Decimal.Shortest

/-! # Decimal — layout of floating-point numbers

How the shortest digits are laid out: which magnitudes are written positionally, how an exponent
looks, and what stands for the values that have no digits.  A layout is one record; `Layout.write`
is the only writer.

* `literal`: as in a quoted value, `nan` and `inf`.
* `json`: as in JSON text, `NaN` and `Infinity`.
-/

namespace TypeCatalog.Decimal

structure Layout where
  /-- The least decimal exponent that is written positionally. -/
  least : Int
  /-- The least exponent above those that are written positionally. -/
  most : Int
  /-- The least number of digits of a written exponent. -/
  exponentDigits : Nat
  nan : String
  infinity : String

/-- Numbers from `1e-04` up to below `1e+16` are positional and whole ones end in `.0`. -/
def Layout.literal : Layout := ⟨-4, 16, 2, "nan", "inf"⟩

def Layout.json : Layout := { Layout.literal with nan := "NaN", infinity := "Infinity" }

/-- `digits` with the decimal point after the first `point` of them. -/
def positional (digits : List Char) (point : Int) : List Char :=
  if point ≤ 0 then '0' :: '.' :: (List.replicate (-point).toNat '0' ++ digits)
  else
    let whole := digits.take point.toNat ++ List.replicate (point.toNat - digits.length) '0'
    match digits.drop point.toNat with
    | []       => whole ++ ['.', '0']
    | fraction => whole ++ '.' :: fraction

/-- `digits` with the point after the first of them, and the exponent. -/
def Layout.scientific (l : Layout) (digits : List Char) (exponent : Int) : List Char :=
  let mantissa := match digits with
    | d :: rest@(_ :: _) => d :: '.' :: rest
    | ds                 => ds
  let written := Nat.toDigits 10 exponent.natAbs
  let padded := List.replicate (l.exponentDigits - written.length) '0' ++ written
  mantissa ++ 'e' :: (if exponent < 0 then '-' else '+') :: padded

def Layout.magnitude (l : Layout) (digits : Nat) (place : Int) : List Char :=
  let written := Nat.toDigits 10 digits
  let exponent : Int := written.length + place - 1
  if digits = 0 then ['0', '.', '0']
  else if l.least ≤ exponent ∧ exponent < l.most then positional written (exponent + 1)
  else l.scientific written exponent

def signed (negative : Bool) (s : String) : String := if negative then "-" ++ s else s

/-- The text of `x`: the fewest digits that read back as `x`. -/
def Layout.write (l : Layout) (x : Float) : String :=
  match parts x with
  | .nan               => l.nan
  | .infinite negative => signed negative l.infinity
  | .finite negative m e narrow =>
      let (digits, place) := shortest m e narrow
      signed negative (String.ofList (l.magnitude digits place))

end TypeCatalog.Decimal
