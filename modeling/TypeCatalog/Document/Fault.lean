import TypeCatalog.Text.Quoted

/-! # Documents — faults

A text is no document if it is malformed, and also if one of its scalars has the form of a number,
a date or an escaped character but there is no such thing.  A whole number may be too long to be
written in digits, even though it can be read in another base.  And a mapping taken for a scalar may
have itself as the value it stands for, so that reading it does not come to an end.

* `BadValue.message`: what is said about such a scalar.
-/

namespace TypeCatalog.Document

/-- The parts of a moment that have a range. -/
inductive MomentPart where
  | year
  | month
  | day
  | hour
  | minute
  | second
  deriving DecidableEq, Repr

/-- A scalar that has the form of a value but stands for none, or for one that cannot be written. -/
inductive BadValue where
  | character (code : Nat)
  | wholeNumber (base : Nat) (text : String)
  | tooManyDigits (count : Nat)
  | number (text : String)
  | emptyNumber
  | switch (text : String)
  | momentPart (part : MomentPart) (n : Nat)
  | offset (minutes : Int)
  | moment
  | tooLarge
  | unwritten
  deriving DecidableEq, Repr

namespace MomentPart

/-- What is said about a part that is out of its range. -/
def message (n : Nat) : MomentPart → String
  | .year   => "year " ++ toString n ++ " is out of range"
  | .month  => "month must be in 1..12"
  | .day    => "day is out of range for month"
  | .hour   => "hour must be in 0..23"
  | .minute => "minute must be in 0..59"
  | .second => "second must be in 0..59"

end MomentPart

/-- A stretch of time in whole days and the seconds left over. -/
def stretch (minutes : Int) : String :=
  let days := Int.fdiv minutes 1440
  let seconds := (minutes - days * 1440) * 60
  let parts := (if days = 0 then [] else ["days=" ++ toString days])
    ++ if seconds = 0 then [] else ["seconds=" ++ toString seconds]
  "datetime.timedelta(" ++ (if parts.isEmpty then "0" else ", ".intercalate parts) ++ ")"

/-- A text in quotes, cut to 200 characters. -/
def shortQuote (text : String) : String := String.ofList ((Text.quote text).toList.take 200)

def BadValue.message : BadValue → String
  | .character code        =>
      if code < Nat.pow 2 31 then "chr() arg not in range(0x110000)"
      else "Python int too large to convert to C int"
  | .wholeNumber base text =>
      "invalid literal for int() with base " ++ toString base ++ ": " ++ shortQuote text
  | .tooManyDigits count   =>
      "Exceeds the limit (4300 digits) for integer string conversion: value has "
        ++ toString count ++ " digits; use sys.set_int_max_str_digits() to increase the limit"
  | .number text           => "could not convert string to float: " ++ Text.quote text
  | .emptyNumber           => "string index out of range"
  | .switch text           => Text.quote text
  | .momentPart part n     => part.message n
  | .offset minutes        =>
      "offset must be a timedelta strictly between "
        ++ "-timedelta(hours=24) and timedelta(hours=24), not " ++ stretch minutes ++ "."
  | .moment                => "not a moment"
  | .tooLarge              => "int too large to convert to float"
  | .unwritten             =>
      "Exceeds the limit (4300 digits) for integer string conversion; "
        ++ "use sys.set_int_max_str_digits() to increase the limit"

/-- Why a text is no document. -/
inductive Fault where
  | malformed
  | badValue (b : BadValue)
  | endless
  deriving DecidableEq, Repr

end TypeCatalog.Document
