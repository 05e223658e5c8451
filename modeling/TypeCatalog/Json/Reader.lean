import TypeCatalog.Decimal.Reading
import TypeCatalog.Ordered
import TypeCatalog.Text.Half
import TypeCatalog.Text.Quoted
import TypeCatalog.Value

/-! # JSON — reading

JSON text as a value.  Objects keep the order of their keys, and a repeated key keeps its place and
takes the last value.  Numbers without fraction and exponent are whole numbers of any size; `NaN`,
`Infinity` and `-Infinity` are read as numbers too.  The two halves of a pair, escaped one after
the other, are one character.
-/

namespace TypeCatalog.Json

open Text (doubleQuote backslash)

def isSpace (c : Char) : Bool := c == ' ' || c == '\t' || c == '\n' || c == '\r'

def skipSpace (cs : List Char) : List Char := cs.dropWhile isSpace

/-- What follows `word`, if the text starts with it. -/
def afterWord? (word : String) (cs : List Char) : Option (List Char) :=
  if word.toList.isPrefixOf cs then some (cs.drop word.length) else none

/-! ### Texts -/

/-- The number of four hexadecimal digits. -/
def unit? (cs : List Char) : Option (Nat × List Char) :=
  let digits := cs.take 4
  if digits.length = 4 ∧ digits.all Decimal.isHexDigit then
    some (Decimal.natOfDigits 16 digits, cs.drop 4)
  else none

/-- What holds the character that starts with the unit `n`, and what follows it. -/
def escapedUnit (n : Nat) (rest : List Char) : List Char × List Char :=
  match (afterWord? "\\u" rest).bind unit? with
  | some (m, rest') =>
      if Text.isUpperHalf n && Text.isLowerHalf m then (Text.ofCode (Text.pairCode n m), rest')
      else (Text.ofCode n, rest)
  | none            => (Text.ofCode n, rest)

/-- What the characters after a backslash stand for. -/
def escaped? : List Char → Option (List Char × List Char)
  | 'b' :: rest => some (['\x08'], rest)
  | 'f' :: rest => some (['\x0c'], rest)
  | 'n' :: rest => some (['\n'], rest)
  | 'r' :: rest => some (['\r'], rest)
  | 't' :: rest => some (['\t'], rest)
  | 'u' :: rest => (unit? rest).map fun u => escapedUnit u.1 u.2
  | c :: rest   => if c = doubleQuote ∨ c = backslash ∨ c = '/' then some ([c], rest) else none
  | []          => none

/-- The characters up to the closing quote, and what follows it; every step takes a character. -/
def stringBody : (fuel : Nat) → List Char → Option (List Char × List Char)
  | 0,        _       => none
  | _ + 1,    []      => none
  | fuel + 1, c :: cs =>
      if c = doubleQuote then some ([], cs)
      else if c = backslash then
        match escaped? cs with
        | some (e, rest) => (stringBody fuel rest).map fun r => (e ++ r.1, r.2)
        | none           => none
      else if c.toNat < 0x20 then none
      else (stringBody fuel cs).map fun r => (c :: r.1, r.2)

def string? (cs : List Char) : Option (String × List Char) :=
  match cs with
  | c :: rest =>
      if c = doubleQuote then
        (stringBody (rest.length + 1) rest).map fun r => (String.ofList r.1, r.2)
      else none
  | []        => none

/-! ### Numbers -/

/-- The digits at the front, of which there has to be one. -/
def digits? (cs : List Char) : Option (List Char × List Char) :=
  match cs.takeWhile Char.isDigit with
  | [] => none
  | ds => some (ds, cs.dropWhile Char.isDigit)

/-- The whole part of a number: zero alone or digits that do not start with it. -/
def whole? : List Char → Option (List Char × List Char)
  | '0' :: rest => some (['0'], rest)
  | cs          => digits? cs

/-- The fraction after a point, if there is one. -/
def fraction : List Char → List Char × List Char
  | '.' :: rest => (digits? rest).getD ([], '.' :: rest)
  | cs          => ([], cs)

/-- The exponent, if there is one. -/
def exponent? : List Char → Option (Int × List Char)
  | c :: rest =>
      if c = 'e' ∨ c = 'E' then
        match rest with
        | '-' :: more => (digits? more).map fun d => (Decimal.intOfDigits true d.1, d.2)
        | '+' :: more => (digits? more).map fun d => (Decimal.intOfDigits false d.1, d.2)
        | more        => (digits? more).map fun d => (Decimal.intOfDigits false d.1, d.2)
      else none
  | []        => none

def unsigned? (negative : Bool) (cs : List Char) : Option (Value × List Char) :=
  match whole? cs with
  | none             => none
  | some (ws, after) =>
      let (fs, rest) := fraction after
      match exponent? rest with
      | some (e, rest') => some (.float (Decimal.ofParts negative ws fs e), rest')
      | none            =>
          if fs.isEmpty then
            if ws.length ≤ Decimal.mostDigits then
              some (.int (Decimal.intOfDigits negative ws), rest)
            else none
          else some (.float (Decimal.ofParts negative ws fs 0), rest)

def number? : List Char → Option (Value × List Char)
  | '-' :: rest => unsigned? true rest
  | cs          => unsigned? false cs

/-! ### Values -/

/-- The words that stand for values. -/
def words : List (String × Value) :=
  [("null", .null), ("true", .bool true), ("false", .bool false), ("NaN", .float (0.0 / 0.0)),
   ("Infinity", .float (1.0 / 0.0)), ("-Infinity", .float (-1.0 / 0.0))]

def word? (cs : List Char) : Option (Value × List Char) :=
  words.findSome? fun w => (afterWord? w.1 cs).map fun rest => (w.2, rest)

def scalar? (cs : List Char) : Option (Value × List Char) :=
  match word? cs with
  | some r => some r
  | none   =>
      match string? cs with
      | some (s, rest) => some (.text s, rest)
      | none           => number? cs

mutual

/-- A value at the front of a text.  Every two steps take a character. -/
def value? : (fuel : Nat) → List Char → Option (Value × List Char)
  | 0,        _  => none
  | fuel + 1, cs =>
      match skipSpace cs with
      | '[' :: rest    =>
          match skipSpace rest with
          | ']' :: rest' => some (.list [], rest')
          | rest'        => (items? fuel rest').map fun r => (.list r.1, r.2)
      | '\x7b' :: rest =>
          match skipSpace rest with
          | '\x7d' :: rest' => some (.dict [], rest')
          | rest'           =>
              (members? fuel rest').map fun r => (.ofFields (Entries.ofList r.1), r.2)
      | rest           => scalar? rest

/-- The items of an array, up to its end. -/
def items? : (fuel : Nat) → List Char → Option (List Value × List Char)
  | 0,        _  => none
  | fuel + 1, cs =>
      match value? fuel cs with
      | none           => none
      | some (v, rest) =>
          match skipSpace rest with
          | ',' :: rest' => (items? fuel rest').map fun r => (v :: r.1, r.2)
          | ']' :: rest' => some ([v], rest')
          | _            => none

/-- The members of an object, up to its end. -/
def members? : (fuel : Nat) → List Char → Option (Entries String Value × List Char)
  | 0,        _  => none
  | fuel + 1, cs =>
      match string? (skipSpace cs) with
      | none           => none
      | some (k, rest) =>
          match skipSpace rest with
          | ':' :: rest' =>
              match value? fuel rest' with
              | none            => none
              | some (v, rest'') =>
                  match skipSpace rest'' with
                  | ',' :: more    => (members? fuel more).map fun r => ((k, v) :: r.1, r.2)
                  | '\x7d' :: more => some ([(k, v)], more)
                  | _              => none
          | _            => none

end

/-- The value a text is, if the text is JSON. -/
def read? (text : String) : Option Value :=
  let cs := text.toList
  match value? (2 * cs.length + 2) cs with
  | some (v, rest) => if (skipSpace rest).isEmpty then some v else none
  | none           => none

end TypeCatalog.Json
