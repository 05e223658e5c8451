import TypeCatalog.Decimal.Whole
import TypeCatalog.Document.Bytes
import TypeCatalog.Document.Fault
import TypeCatalog.Text.Lower
import TypeCatalog.Value

/-! # Documents — scalars

A plain scalar is of the kind that it looks like: nothing, a switch, a number, a moment, or else
text.  Whole numbers may be binary, octal, hexadecimal or in base sixty, digits may be grouped by
underscores, and a number with a point may have an exponent, which needs a sign.

* `Kind.ofPlain`: the kind a plain scalar looks like.
* `Kind.read`: the value of a scalar of some kind.
-/

namespace TypeCatalog.Document

/-- The kinds of parts of a document. -/
inductive Kind where
  | null
  | switch
  | whole
  | number
  | moment
  | text
  | bytes
  | list
  | pairs
  | dict
  | set
  | merge
  | fallback
  | unknown
  deriving DecidableEq, Repr

namespace Kind

/-- The names of the kinds in tags. -/
def ofName : String → Kind
  | "null"      => .null
  | "bool"      => .switch
  | "int"       => .whole
  | "float"     => .number
  | "timestamp" => .moment
  | "str"       => .text
  | "binary"    => .bytes
  | "seq"       => .list
  | "map"       => .dict
  | "set"       => .set
  | "omap"      => .pairs
  | "pairs"     => .pairs
  | "merge"     => .merge
  | "value"     => .fallback
  | _           => .unknown

/-- The kind of a tag that starts with `front` if it is a standard one. -/
def ofTag (front tag : String) : Kind :=
  if front.toList.isPrefixOf tag.toList then
    ofName (String.ofList (tag.toList.drop front.length))
  else .unknown

end Kind

/-! ### Pieces of scalars -/

/-- The sign at the front, if there is one: whether it is a minus, and what follows it. -/
def splitSign : List Char → Bool × List Char
  | '-' :: cs => (true, cs)
  | '+' :: cs => (false, cs)
  | cs        => (false, cs)

def isGroupDigit (c : Char) : Bool := c.isDigit || c == '_'

/-- `cs` without the underscores that group digits. -/
def ungrouped (cs : List Char) : List Char := cs.filter (· != '_')

/-- Not empty, and all of one class. -/
def allOf (p : Char → Bool) (cs : List Char) : Bool := !cs.isEmpty && cs.all p

def negateIf (negative : Bool) (n : Int) : Int := if negative then -n else n

/-- The parts between colons. -/
def colonParts (cs : List Char) : List (List Char) := Text.pieces ':' cs

/-! ### The form of whole numbers -/

def isBinaryDigit (c : Char) : Bool := c == '0' || c == '1' || c == '_'

def isOctalDigit (c : Char) : Bool := (decide ('0' ≤ c) && decide (c ≤ '7')) || c == '_'

def isHexGroupDigit (c : Char) : Bool :=
  isGroupDigit c || (decide ('a' ≤ c) && decide (c ≤ 'f')) || (decide ('A' ≤ c) && decide (c ≤ 'F'))

/-- One or two digits below sixty. -/
def isSixtieth : List Char → Bool
  | [c]    => c.isDigit
  | [c, d] => decide ('0' ≤ c) && decide (c ≤ '5') && d.isDigit
  | _      => false

/-- Groups of digits that make a number in base sixty: a `leading` one and at least one more. -/
def isSixties (leading : List Char → Bool) (cs : List Char) : Bool :=
  match colonParts cs with
  | p :: q :: ps => leading p && (q :: ps).all isSixtieth
  | _            => false

def isDecimalStart : List Char → Bool
  | c :: cs => c.isDigit && c != '0' && cs.all isGroupDigit
  | []      => false

/-- A whole number without sign. -/
def looksNatural : List Char → Bool
  | ['0']            => true
  | '0' :: 'b' :: cs => allOf isBinaryDigit cs
  | '0' :: 'x' :: cs => allOf isHexGroupDigit cs
  | '0' :: cs        => allOf isOctalDigit cs
  | cs               => isDecimalStart cs || isSixties isDecimalStart cs

def looksWhole (cs : List Char) : Bool := looksNatural (splitSign cs).2

/-! ### The form of numbers with a point -/

def startsWithDigit : List Char → Bool
  | c :: _ => c.isDigit
  | []     => false

/-- An exponent with its sign, or nothing. -/
def isExponent : List Char → Bool
  | []              => true
  | e :: sign :: cs =>
      (e == 'e' || e == 'E') && (sign == '-' || sign == '+') && allOf Char.isDigit cs
  | _               => false

/-- The digits after a point and an exponent. -/
def isFraction (cs : List Char) : Bool := isExponent (cs.dropWhile isGroupDigit)

def isDigitGroup (cs : List Char) : Bool := startsWithDigit cs && cs.all isGroupDigit

/-- The words for infinity and for what is not a number. -/
def isInfinityWord (cs : List Char) : Bool :=
  [".inf", ".Inf", ".INF"].contains (String.ofList cs)

def isNanWord (cs : List Char) : Bool := [".nan", ".NaN", ".NAN"].contains (String.ofList cs)

/-- A number with a point; only infinity may have a sign when the point comes first. -/
def looksNumber (cs : List Char) : Bool :=
  let digits := (splitSign cs).2
  let front := digits.takeWhile (· != '.')
  match digits.dropWhile (· != '.') with
  | []        => false
  | _ :: tail =>
      if front.isEmpty then
        isInfinityWord digits
          || (digits.length == cs.length
            && (isNanWord digits || (startsWithDigit tail && isFraction tail)))
      else (isDigitGroup front && isFraction tail)
        || (isSixties isDigitGroup front && tail.all isGroupDigit)

/-! ### The form of moments -/

/-- The digits at the front, at most `most` of them, of which there are at least `least`. -/
def upTo? (least most : Nat) (cs : List Char) : Option (Nat × List Char) :=
  let digits := (cs.take most).takeWhile Char.isDigit
  if least ≤ digits.length then
    some (Decimal.natOfDigits 10 digits, cs.drop digits.length)
  else none

def afterChar? (c : Char) : List Char → Option (List Char)
  | d :: cs => if c = d then some cs else none
  | []      => none

/-- Year, month and day, the latter two with at least `least` digits. -/
def calendar? (least : Nat) (cs : List Char) : Option (Date × List Char) := do
  let (year, cs) ← upTo? 4 4 cs
  let cs ← afterChar? '-' cs
  let (month, cs) ← upTo? least 2 cs
  let cs ← afterChar? '-' cs
  let (day, cs) ← upTo? least 2 cs
  return (⟨year, month, day⟩, cs)

def isGap (c : Char) : Bool := c == ' ' || c == '\t'

/-- What follows the separator of date and time. -/
def afterSeparator? : List Char → Option (List Char)
  | 'T' :: cs => some cs
  | 't' :: cs => some cs
  | c :: cs   => if isGap c then some (cs.dropWhile isGap) else none
  | []        => none

/-- The fraction of a second, in millionths. -/
def micros : List Char → Nat × List Char
  | '.' :: cs =>
      let digits := (cs.takeWhile Char.isDigit).take 6
      (Decimal.natOfDigits 10 (digits ++ List.replicate (6 - digits.length) '0'),
        cs.dropWhile Char.isDigit)
  | cs        => (0, cs)

/-- The offset from universal time; no offset is known where the text ends. -/
def offset? (cs : List Char) : Option (Option Int) :=
  match cs.dropWhile isGap with
  | []        => if cs.isEmpty then some none else none
  | ['Z']     => some (some 0)
  | c :: rest =>
      if c = '-' ∨ c = '+' then do
        let (hours, rest) ← upTo? 1 2 rest
        let minutes ← match rest with
          | []          => some 0
          | ':' :: more =>
              match upTo? 2 2 more with
              | some (m, []) => some m
              | _            => none
          | _           => none
        return some (negateIf (c == '-') (hours * 60 + minutes))
      else none

def moment? (cs : List Char) : Option Moment := do
  let (date, cs) ← calendar? 1 cs
  let cs ← afterSeparator? cs
  let (hour, cs) ← upTo? 1 2 cs
  let cs ← afterChar? ':' cs
  let (minute, cs) ← upTo? 2 2 cs
  let cs ← afterChar? ':' cs
  let (second, cs) ← upTo? 2 2 cs
  let (micro, cs) := micros cs
  return ⟨date, hour, minute, second, micro, ← offset? cs⟩

/-- A day by itself. -/
def day? (least : Nat) (cs : List Char) : Option Date :=
  match calendar? least cs with
  | some (d, []) => some d
  | _            => none

def looksMoment (cs : List Char) : Bool := (day? 2 cs).isSome || (moment? cs).isSome

/-! ### Kinds of plain scalars -/

/-- A word as written, capitalised, and in capitals. -/
def spellings (word : String) : List String :=
  match word.toList with
  | []      => []
  | c :: cs => [word, String.ofList (c.toUpper :: cs), String.ofList (word.toList.map Char.toUpper)]

def onWords : List String := ["yes", "true", "on"]

def offWords : List String := ["no", "false", "off"]

def nothingWords : List String := "" :: "~" :: spellings "null"

/-- A scalar without a line feed at its end, unless it is nothing else. -/
def withoutFinalFeed (cs : List Char) : List Char :=
  if decide (1 < cs.length) && cs.getLast? == some '\n' then cs.dropLast else cs

/-- The kind that a scalar looks like when it is taken for a plain one.  A line feed at its end does
not count. -/
def Kind.ofPlain (cs : List Char) : Kind :=
  let cs := withoutFinalFeed cs
  let s := String.ofList cs
  if nothingWords.contains s then .null
  else if ((onWords ++ offWords).flatMap spellings).contains s then .switch
  else if looksNumber cs then .number
  else if looksWhole cs then .whole
  else if looksMoment cs then .moment
  else if s == "<<" then .merge
  else if s == "=" then .fallback
  else .text

/-! ### Values of whole numbers -/

/-- The letter that may stand for a base, after a zero, in front of the digits. -/
def baseLetter? : (base : Nat) → Option Char
  | 2  => some 'b'
  | 8  => some 'o'
  | 16 => some 'x'
  | _  => none

/-- The digits without a zero and the letter of their base in front of them. -/
def withoutBase (base : Nat) : List Char → List Char
  | '0' :: c :: cs => if baseLetter? base == some c.toLower then cs else '0' :: c :: cs
  | cs             => cs

def isDigitOf (base : Nat) (c : Char) : Bool :=
  c.isAlphanum && decide (Decimal.digitValue c < base)

/-- The number in the given base that `cs` is typed for. -/
def numeral (base : Nat) (cs : List Char) : Except BadValue Int :=
  let (negative, digits) := splitSign ((Decimal.unpadded cs).map Decimal.plainDigit)
  let digits := withoutBase base digits
  if allOf (isDigitOf base) digits then
    .ok (negateIf negative (Decimal.natOfDigits base digits))
  else .error (.wholeNumber base (String.ofList cs))

/-- The decimal number that `cs` is typed for. -/
def decimal (cs : List Char) : Except BadValue Int :=
  let digits := (splitSign (Decimal.unpadded cs)).2
  let count := (digits.takeWhile fun c => (Text.digit? c).isSome).length
  if Decimal.mostDigits < count then .error (.tooManyDigits count)
  else match Decimal.whole? (String.ofList cs) with
    | some i => .ok i
    | none   => .error (.wholeNumber 10 (String.ofList cs))

/-- The number in base sixty. -/
def sixties (parts : List (List Char)) : Except BadValue Int := do
  let digits ← parts.mapM decimal
  return digits.foldl (fun n d => n * 60 + d) 0

def readWhole (cs : List Char) : Except BadValue Int :=
  let cs := ungrouped cs
  let (negative, digits) := splitSign cs
  (negateIf negative ·) <$> match digits with
  | []               => .error .emptyNumber
  | ['0']            => .ok 0
  | '0' :: 'b' :: ds => numeral 2 ds
  | '0' :: 'x' :: ds => numeral 16 ds
  | '0' :: _         => numeral 8 digits
  | _                => if digits.contains ':' then sixties (colonParts digits) else decimal digits

/-! ### Values of numbers with a point -/

/-- The exponent after its letter. -/
def exponent? (cs : List Char) : Option Int :=
  let (negative, digits) := splitSign cs
  if allOf Char.isDigit digits then some (Decimal.intOfDigits negative digits) else none

/-- A number without sign: digits with a point among them and an exponent, or a word. -/
def unsignedNumber? (negative : Bool) (cs : List Char) : Option Float :=
  if ["inf", "infinity"].contains (String.ofList cs) then
    some (if negative then -1.0 / 0.0 else 1.0 / 0.0)
  else if String.ofList cs == "nan" then some (0.0 / 0.0)
  else
    let whole := cs.takeWhile Char.isDigit
    let (fraction, rest) := match cs.dropWhile Char.isDigit with
      | '.' :: more => (more.takeWhile Char.isDigit, more.dropWhile Char.isDigit)
      | more        => ([], more)
    if whole.isEmpty && fraction.isEmpty then none
    else match rest with
      | []        => some (Decimal.ofParts negative whole fraction 0)
      | 'e' :: es => (exponent? es).map (Decimal.ofParts negative whole fraction)
      | _         => none

def pointed (cs : List Char) : Except BadValue Float :=
  let (negative, digits) := splitSign ((Decimal.unpadded cs).map Decimal.plainDigit)
  match unsignedNumber? negative digits with
  | some x => .ok x
  | none   => .error (.number (String.ofList cs))

/-- How many parts there may be in base sixty; a further one would have a weight that is too large
for a float. -/
def mostSixties : Nat := 174

/-- The number in base sixty, the parts added up from the last one on. -/
def pointedSixties (parts : List (List Char)) : Except BadValue Float := do
  let digits ← parts.mapM pointed
  if mostSixties < digits.length then throw .tooLarge
  return (digits.reverse.foldl (fun (sum : Float × Nat) d =>
    (sum.1 + d * Decimal.toFloat sum.2 0, sum.2 * 60)) (0.0, 1)).1

def readNumber (cs : List Char) : Except BadValue Scalar :=
  let cs := (Text.lower (String.ofList (ungrouped cs))).toList
  let (negative, digits) := splitSign cs
  let signed (x : Float) : Scalar := .float (if negative then -x else x)
  if cs.isEmpty then .error .emptyNumber
  else if String.ofList digits == ".inf" then .ok (signed (1.0 / 0.0))
  else if String.ofList digits == ".nan" then .ok .notNumber
  else if digits.contains ':' then signed <$> pointedSixties (colonParts digits)
  else signed <$> pointed digits

/-! ### Values of moments -/

def isLeapYear (year : Nat) : Bool :=
  year % 4 == 0 && (year % 100 != 0 || year % 400 == 0)

def daysIn (year month : Nat) : Nat :=
  if month = 2 then (if isLeapYear year then 29 else 28)
  else if [4, 6, 9, 11].contains month then 30
  else 31

/-- The first part of a date that is out of its range. -/
def badDate? (d : Date) : Option BadValue :=
  if d.year < 1 then some (.momentPart .year d.year)
  else if d.month < 1 ∨ 12 < d.month then some (.momentPart .month d.month)
  else if d.day < 1 ∨ daysIn d.year d.month < d.day then some (.momentPart .day d.day)
  else none

/-- The offset, or else the first part, of a moment that is out of its range. -/
def badMoment? (m : Moment) : Option BadValue :=
  let offset := m.offset.getD 0
  if 1440 ≤ offset.natAbs then some (.offset offset)
  else (badDate? m.date).or
    (if 24 ≤ m.hour then some (.momentPart .hour m.hour)
    else if 60 ≤ m.minute then some (.momentPart .minute m.minute)
    else if 60 ≤ m.second then some (.momentPart .second m.second)
    else none)

def readMoment (cs : List Char) : Except BadValue Scalar :=
  let cs := withoutFinalFeed cs
  match day? 1 cs, moment? cs with
  | some d, _      => match badDate? d with
    | some b => .error b
    | none   => .ok (.date d)
  | none,   some m => match badMoment? m with
    | some b => .error b
    | none   => .ok (.moment m)
  | none,   none   => .error .moment

/-! ### Values -/

def readSwitch (text : String) : Except BadValue Scalar :=
  let word := Text.lower text
  if onWords.contains word then .ok (.bool true)
  else if offWords.contains word then .ok (.bool false)
  else .error (.switch word)

/-- The value of a scalar; a scalar of the kind of a collection has none. -/
def Kind.read (kind : Kind) (text : String) : Except Fault Scalar :=
  match kind with
  | .null   => .ok .null
  | .switch => (readSwitch text).mapError .badValue
  | .whole  => ((readWhole text.toList).map Scalar.int).mapError .badValue
  | .number => (readNumber text.toList).mapError .badValue
  | .moment => (readMoment text.toList).mapError .badValue
  | .text   => .ok (.text text)
  | .bytes  =>
      match bytes? text.toList with
      | some bs => .ok (.bytes bs)
      | none    => .error .malformed
  | _       => .error .malformed

/-- What a plain scalar stands for, if it stands for anything. -/
def plain? (cs : List Char) : Option Scalar := ((Kind.ofPlain cs).read (String.ofList cs)).toOption

end TypeCatalog.Document
