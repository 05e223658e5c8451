/-! # Decimal — the shortest decimal of a binary fraction

A finite double is `m · 2 ^ e`.  The reals that round to it form an interval about it, closed
exactly when `m` is even.  Of the decimals in that interval `shortest` takes one with the fewest
digits and, among those, the nearest: for 1, 2, … 17 digits it tests the two neighbours of the
value on the decimal grid with so many digits, in exact integer arithmetic, and the first grid
with a hit wins.
-/

namespace TypeCatalog.Decimal

/-! ### The parts of a double -/

/-- What the bits of a double stand for; `narrow` holds of the least mantissa of a binade, whose
lower neighbour is only half as far away as its upper one. -/
inductive Parts where
  | nan
  | infinite (negative : Bool)
  | finite (negative : Bool) (mantissa : Nat) (exponent : Int) (narrow : Bool)

def parts (x : Float) : Parts :=
  let bits := x.toBits.toNat
  let negative := decide (Nat.pow 2 63 ≤ bits)
  let biased : Nat := bits / Nat.pow 2 52 % Nat.pow 2 11
  let fraction : Nat := bits % Nat.pow 2 52
  if biased = Nat.pow 2 11 - 1 then
    if fraction = 0 then .infinite negative else .nan
  else if biased = 0 then .finite negative fraction (-1074) false
  else
    .finite negative (Nat.pow 2 52 + fraction) ((biased : Int) - 1075)
      (decide (fraction = 0 ∧ 1 < biased))

/-- `x` is the integer `i`. -/
def isInt (x : Float) (i : Int) : Bool :=
  match parts x with
  | .finite negative m e _ =>
      let signed : Int := if negative then -m else m
      if 0 ≤ e then i == signed * Int.pow 2 e.toNat else i * Int.pow 2 (-e).toNat == signed
  | _ => false

/-- The whole number that `x` is, if it is one. -/
def wholeValue? (x : Float) : Option Int :=
  match parts x with
  | .finite negative m e _ =>
      let signed : Int := if negative then -m else m
      if 0 ≤ e then some (signed * Int.pow 2 e.toNat)
      else if m % Nat.pow 2 (-e).toNat == 0 then some (signed / Int.pow 2 (-e).toNat) else none
  | _ => none

/-- `x` is zero, of either sign. -/
def isZero (x : Float) : Bool :=
  match parts x with
  | .finite _ m _ _ => m == 0
  | _               => false

/-- Equality of numbers: the zeros are equal, and what is not a number equals nothing. -/
def same (x y : Float) : Bool :=
  match parts x, parts y with
  | .infinite a,       .infinite b       => a == b
  | .finite a m e _,   .finite b n f _   => (m == 0 && n == 0) || (a == b && m == n && e == f)
  | _,                 _                 => false

/-! ### The decimal grids -/

/-- A positive value with the ends of its interval, as numerators over one denominator. -/
structure Interval where
  low : Nat
  value : Nat
  high : Nat
  unit : Nat
  closed : Bool

def Interval.ofParts (m : Nat) (e : Int) (narrow : Bool) : Interval :=
  let up := Nat.pow 2 (e - 2).toNat
  let low := if narrow then 4 * m - 1 else 4 * m - 2
  ⟨low * up, 4 * m * up, (4 * m + 2) * up, Nat.pow 2 (2 - e).toNat, decide (m % 2 = 0)⟩

/-- The number of decimal digits of `n`. -/
def digitCount (n : Nat) : Nat := (Nat.toDigits 10 n).length

/-- How many places `num / den` lies below one, up to `fuel`. -/
def placesBelow (num den : Nat) : (fuel : Nat) → Nat
  | 0        => 0
  | fuel + 1 => if den ≤ num then 0 else placesBelow (num * 10) den fuel + 1

/-- The least `d` with `num / den < 10 ^ d`, for values within a double's range. -/
def pointOf (num den : Nat) : Int :=
  if den ≤ num then digitCount (num / den) else 1 - (placesBelow num den 400 : Int)

/-- The point of the grid with `count` digits that lies in the interval nearest to the value. -/
def Interval.onGrid? (i : Interval) (point : Int) (count : Nat) : Option (Nat × Int) :=
  let place : Int := point - count
  let up := Nat.pow 10 (-place).toNat
  let num := i.value * up
  let den := i.unit * Nat.pow 10 place.toNat
  let below := num / den
  let above := below + 1
  let lowIn := if i.closed then decide (i.low * up ≤ below * den)
    else decide (i.low * up < below * den)
  let highIn := if i.closed then decide (above * den ≤ i.high * up)
    else decide (above * den < i.high * up)
  let nearer := compare (num - below * den) (above * den - num)
  match lowIn, highIn with
  | false, false => none
  | true,  false => some (below, place)
  | false, true  => some (above, place)
  | true,  true  =>
      match nearer with
      | .lt => some (below, place)
      | .gt => some (above, place)
      | .eq => some (if below % 2 = 0 then below else above, place)

/-- The first hit on the grids with `count`, `count + 1`, … digits. -/
def Interval.firstHit (i : Interval) (point : Int) (count : Nat) : (fuel : Nat) → Nat × Int
  | 0        => (i.value / i.unit, 0)
  | fuel + 1 => (i.onGrid? point count).getD (i.firstHit point (count + 1) fuel)

/-- Moves final zeros of the digits into the exponent. -/
def dropZeros (digits : Nat) (place : Int) : (fuel : Nat) → Nat × Int
  | 0        => (digits, place)
  | fuel + 1 =>
      if digits ≠ 0 ∧ digits % 10 = 0 then dropZeros (digits / 10) (place + 1) fuel
      else (digits, place)

/-- The digits `n` and the exponent `k` of the shortest decimal `n · 10 ^ k` for `m · 2 ^ e`. -/
def shortest (m : Nat) (e : Int) (narrow : Bool) : Nat × Int :=
  if m = 0 then (0, 0)
  else
    let i := Interval.ofParts m e narrow
    let (digits, place) := i.firstHit (pointOf i.value i.unit) 1 18
    dropZeros digits place 20

end TypeCatalog.Decimal
