import TypeCatalog.Decimal.Shortest

/-! # Scalars

The data that hold no others: nothing, truth values, numbers, texts, bytes, dates and moments.
Floating-point numbers are kept apart from whole ones.  What is not a number is written in documents
in one way, and unlike such a float that a computation comes to, the one of documents agrees with
itself.
-/

namespace TypeCatalog

structure Date where
  year : Nat
  month : Nat
  day : Nat
  deriving DecidableEq, Repr

/-- A date with a time of day, and the offset from universal time in minutes if one is known. -/
structure Moment where
  date : Date
  hour : Nat
  minute : Nat
  second : Nat
  microsecond : Nat
  offset : Option Int
  deriving DecidableEq, Repr

namespace Date

/-- The days of the months before `month`, in a year that starts in March. -/
def daysOfMonths (month : Nat) : Nat := (153 * ((month + 9) % 12) + 2) / 5

/-- The number of the day, counted from the first of March of a year zero. -/
def number (d : Date) : Nat :=
  let year := if d.month ≤ 2 then d.year - 1 else d.year
  365 * year + year / 4 - year / 100 + year / 400 + daysOfMonths d.month + d.day

end Date

namespace Moment

/-- The moment in millionths of a second, as its own clock shows it. -/
def onClock (m : Moment) : Nat :=
  (((m.date.number * 24 + m.hour) * 60 + m.minute) * 60 + m.second) * 1000000 + m.microsecond

/-- Two moments are one instant if their offsets are known; without offsets they show the same. -/
def agrees (m n : Moment) : Bool :=
  match m.offset, n.offset with
  | none,   none   => m == n
  | some a, some b => (m.onClock : Int) - a * 60000000 == (n.onClock : Int) - b * 60000000
  | _,      _      => false

end Moment

inductive Scalar where
  | null
  | bool (b : Bool)
  | int (i : Int)
  | float (x : Float)
  | notNumber
  | text (s : String)
  | bytes (bs : List UInt8)
  | date (d : Date)
  | moment (m : Moment)

instance : Inhabited Scalar := ⟨.null⟩

end TypeCatalog
