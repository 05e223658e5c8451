import TypeCatalog.Decimal.Layout
import TypeCatalog.Decimal.Reading
import TypeCatalog.Text.Quoted
import TypeCatalog.Value.Opened

/-! # Values — written form

`Value.literal` writes a value so that its kind shows: texts quoted, sequences in brackets of their
kind, a comma after the item of a tuple of one; of a part that is inside itself there are just the
brackets.  `Value.plain` is the same except that a text by itself stands without quotes and a date
in its calendar form.  `Value.isWritable` holds of a value that has no whole number with too many
digits in it.
-/

namespace TypeCatalog

/-- `n` with at least two digits. -/
def twoDigits (n : Nat) : String := if n < 10 then "0" ++ toString n else toString n

/-- `n` with exactly the last `width` places of a number. -/
def fixedDigits (width n : Nat) : String :=
  let digits := Nat.toDigits 10 n
  String.ofList (List.replicate (width - digits.length) '0' ++ digits)

namespace Date

/-- The calendar form, year first. -/
def iso (d : Date) : String :=
  fixedDigits 4 d.year ++ "-" ++ twoDigits d.month ++ "-" ++ twoDigits d.day

def fields (d : Date) : List String := [toString d.year, toString d.month, toString d.day]

end Date

namespace Moment

/-- An offset from universal time, in hours and minutes. -/
def isoOffset (minutes : Int) : String :=
  (if minutes < 0 then "-" else "+") ++ twoDigits (minutes.natAbs / 60) ++ ":"
    ++ twoDigits (minutes.natAbs % 60)

/-- Calendar form and time of day, with `between` between them. -/
def isoWith (between : String) (m : Moment) : String :=
  m.date.iso ++ between ++ twoDigits m.hour ++ ":" ++ twoDigits m.minute ++ ":"
    ++ twoDigits m.second
    ++ (if m.microsecond = 0 then "" else "." ++ fixedDigits 6 m.microsecond)
    ++ (m.offset.map isoOffset).getD ""

def iso (m : Moment) : String := m.isoWith "T"

/-- An offset as a time zone: whole days first, then the seconds left over. -/
def zoneLiteral (minutes : Int) : String :=
  let days := Int.fdiv minutes 1440
  let seconds := (minutes - days * 1440) * 60
  if minutes = 0 then "datetime.timezone.utc"
  else if days = 0 then "datetime.timezone(datetime.timedelta(seconds=" ++ toString seconds ++ "))"
  else "datetime.timezone(datetime.timedelta(days=" ++ toString days ++ ", seconds="
    ++ toString seconds ++ "))"

def literal (m : Moment) : String :=
  let seconds := if m.second = 0 ∧ m.microsecond = 0 then [] else [toString m.second]
  let micros := if m.microsecond = 0 then [] else [toString m.microsecond]
  let zone := (m.offset.map fun o => ["tzinfo=" ++ zoneLiteral o]).getD []
  "datetime.datetime(" ++ ", ".intercalate
    (m.date.fields ++ [toString m.hour, toString m.minute] ++ seconds ++ micros ++ zone) ++ ")"

end Moment

/-- The name of a kind as a constant. -/
def ElementKind.literal (k : ElementKind) : String :=
  let constant := match k with
    | .classType => "CLASS"
    | .field     => "FIELD"
    | .method    => "METHOD"
    | .parameter => "METHOD_PARAMETER"
    | .type      => "TYPE"
  "<TargetKind." ++ constant ++ ": " ++ Text.quote k.word ++ ">"

/-- One byte inside quotes of the given kind. -/
def escapeByte (quote : Char) (b : UInt8) : List Char :=
  if b.toNat < 0x80 then Text.escape quote b.toNat
  else Text.backslash :: 'x' :: Text.hex 2 b.toNat

/-- Bytes between quotes. -/
def quoteBytes (bs : List UInt8) : String :=
  let quote := Text.quoteFor (bs.map fun b => Char.ofNat b.toNat)
  String.ofList ('b' :: quote :: (bs.flatMap (escapeByte quote) ++ [quote]))

namespace Scalar

def literal : Scalar → String
  | .null      => "None"
  | .bool b    => if b then "True" else "False"
  | .int i     => toString i
  | .float x   => Decimal.Layout.literal.write x
  | .notNumber => "nan"
  | .text s    => Text.quote s
  | .bytes bs  => quoteBytes bs
  | .date d    => "datetime.date(" ++ ", ".intercalate d.fields ++ ")"
  | .moment m  => m.literal

/-- Not a whole number with more digits than are written. -/
def isWritable : Scalar → Bool
  | .int i => Decimal.hasDigits i
  | _      => true

end Scalar

/-! ### Brackets -/

def listLiteral (items : List String) : String := "[" ++ ", ".intercalate items ++ "]"

def pairLiteral (p : String × String) : String := "(" ++ p.1 ++ ", " ++ p.2 ++ ")"

def dictLiteral (entries : List String) : String := "\x7b" ++ ", ".intercalate entries ++ "\x7d"

def setLiteral (ss : List Scalar) : String :=
  if ss.isEmpty then "set()" else dictLiteral (ss.map Scalar.literal)

/-! ### Knots -/

namespace Layer

/-- A layer of parts that are written already. -/
def literal : Layer String → String
  | .scalar s => s.literal
  | .set ss   => setLiteral ss
  | .list xs  => listLiteral xs
  | .pairs ps => listLiteral (ps.map pairLiteral)
  | .dict es  => dictLiteral (es.map fun e => e.1.literal ++ ": " ++ e.2)

/-- How a layer is written where it is inside itself. -/
def shut {α : Type} : Layer α → String
  | .dict _ => "\x7b...\x7d"
  | _       => "[...]"

/-- The scalars of a layer can be written, and so can its parts. -/
def isWritable : Layer Bool → Bool
  | .scalar s => s.isWritable
  | .set ss   => ss.all Scalar.isWritable
  | .list xs  => xs.all id
  | .pairs ps => ps.all fun p => p.1 && p.2
  | .dict es  => es.all fun e => e.1.isWritable && e.2

end Layer

namespace Cells

/-- What is at a place inside the places `around`, written down to `depth` levels. -/
def literalFrom (cells : Cells) : (depth : Nat) → (around : List Nat) → Nat → String
  | 0,         _,      _ => ""
  | depth + 1, around, i =>
      if around.contains i then (cells.layer i).shut
      else ((cells.layer i).map (literalFrom cells depth (i :: around))).literal

/-- What is at a place inside the places `around` can be written, down to `depth` levels. -/
def isWritableFrom (cells : Cells) : (depth : Nat) → (around : List Nat) → Nat → Bool
  | 0,         _,      _ => true
  | depth + 1, around, i =>
      around.contains i ||
        ((cells.layer i).map (isWritableFrom cells depth (i :: around))).isWritable

end Cells

namespace Knot

def literal (k : Knot) : String := k.cells.literalFrom (k.cells.depth + 1) [] k.root

def isWritable (k : Knot) : Bool := k.cells.isWritableFrom (k.cells.depth + 1) [] k.root

end Knot

namespace Value

mutual

/-- The value written so that its kind shows. -/
def literal : Value → String
  | .null          => Scalar.null.literal
  | .bool b        => (Scalar.bool b).literal
  | .int i         => (Scalar.int i).literal
  | .float x       => (Scalar.float x).literal
  | .notNumber     => Scalar.notNumber.literal
  | .text s        => (Scalar.text s).literal
  | .bytes bs      => (Scalar.bytes bs).literal
  | .date d        => (Scalar.date d).literal
  | .moment m      => (Scalar.moment m).literal
  | .tuple [x]     => "(" ++ literal x ++ ",)"
  | .tuple xs      => "(" ++ ", ".intercalate (literals xs) ++ ")"
  | .set ss        => setLiteral ss
  | .list xs       => listLiteral (literals xs)
  | .dict es       => dictLiteral (entryLiterals es)
  | .knot k        => k.literal
  | .nested n vs k p =>
      "AnnotationInstance(name=" ++ Text.quote n ++ ", values=mappingproxy(\x7b"
        ++ ", ".intercalate (namedLiterals vs) ++ "\x7d), target_kind="
        ++ (k.map ElementKind.literal).getD "None" ++ ", position="
        ++ (p.map toString).getD "None" ++ ")"

def literals : List Value → List String
  | []      => []
  | x :: xs => literal x :: literals xs

def entryLiterals : List (Value × Value) → List String
  | []           => []
  | (k, v) :: es => (literal k ++ ": " ++ literal v) :: entryLiterals es

def namedLiterals : List (String × Value) → List String
  | []           => []
  | (n, v) :: es => (Text.quote n ++ ": " ++ literal v) :: namedLiterals es

end

mutual

/-- No whole number in the value has more digits than are written. -/
def isWritable : Value → Bool
  | .int i           => Decimal.hasDigits i
  | .set ss          => ss.all Scalar.isWritable
  | .tuple xs        => areWritable xs
  | .list xs         => areWritable xs
  | .dict es         => entriesAreWritable es
  | .nested _ vs _ _ => namedAreWritable vs
  | .knot k          => k.isWritable
  | _                => true

def areWritable : List Value → Bool
  | []      => true
  | x :: xs => isWritable x && areWritable xs

def entriesAreWritable : List (Value × Value) → Bool
  | []           => true
  | (k, v) :: es => isWritable k && isWritable v && entriesAreWritable es

def namedAreWritable : List (String × Value) → Bool
  | []           => true
  | (_, v) :: vs => isWritable v && namedAreWritable vs

end

/-- The value as text by itself. -/
def plain : Value → String
  | .text s   => s
  | .date d   => d.iso
  | .moment m => m.isoWith " "
  | v         => literal v

end Value

end TypeCatalog
