import TypeCatalog.Decimal.Layout
import TypeCatalog.Decimal.Reading
import TypeCatalog.Text.Quoted
import TypeCatalog.Value

/-! # JSON — writing

Values as JSON text on one line, in ASCII: other codes are escaped in units of sixteen bits.
Tuples are written as arrays, and keys that are numbers or words as texts.  Bytes, dates, sets,
annotations and keys of other kinds have no JSON form; what is written for all but the last is up to
the caller.  Nor has a knot, or a whole number with too many digits.
-/

namespace TypeCatalog.Json

open Text (doubleQuote backslash)

/-- One code unit, escaped. -/
def escapedCode (n : Nat) : List Char := backslash :: 'u' :: Text.hex 4 n

/-- One code of a text. -/
def encodeCode (n : Nat) : List Char :=
  let c := Char.ofNat n
  if c = doubleQuote ∨ c = backslash then [backslash, c]
  else if c = '\n' then [backslash, 'n']
  else if c = '\r' then [backslash, 'r']
  else if c = '\t' then [backslash, 't']
  else if c = '\x0c' then [backslash, 'f']
  else if c = '\x08' then [backslash, 'b']
  else if 0x20 ≤ n ∧ n < 0x7F then [c]
  else if n < 0x10000 then escapedCode n
  else
    escapedCode (0xD800 + (n - 0x10000) / 0x400) ++ escapedCode (0xDC00 + (n - 0x10000) % 0x400)

def encode (s : String) : String :=
  String.ofList (doubleQuote :: ((Text.codes s.toList).flatMap encodeCode ++ [doubleQuote]))

/-- The digits of a whole number. -/
def wholeText? (i : Int) : Option String := if Decimal.hasDigits i then some (toString i) else none

/-- The text a key is written as. -/
def keyText? : Value → Option String
  | .text s  => some s
  | .int i   => wholeText? i
  | .float x => some (Decimal.Layout.json.write x)
  | .notNumber => some "NaN"
  | .bool b  => some (if b then "true" else "false")
  | .null    => some "null"
  | _        => none

mutual

/-- The JSON text of a value.  `fallback` gives the text to write for a value without a JSON form;
there is none if it gives none. -/
def write? (fallback : Value → Option String) : Value → Option String
  | .null     => some "null"
  | .bool b   => some (if b then "true" else "false")
  | .int i    => wholeText? i
  | .float x  => some (Decimal.Layout.json.write x)
  | .notNumber => some "NaN"
  | .text s   => some (encode s)
  | .tuple xs => (writeItems? fallback xs).map fun is => "[" ++ ", ".intercalate is ++ "]"
  | .list xs  => (writeItems? fallback xs).map fun is => "[" ++ ", ".intercalate is ++ "]"
  | .dict es  =>
      (writeMembers? fallback es).map fun ms => "\x7b" ++ ", ".intercalate ms ++ "\x7d"
  | .knot _             => none
  | .bytes bs           => (fallback (.bytes bs)).map encode
  | .set ss             => (fallback (.set ss)).map encode
  | .date d             => (fallback (.date d)).map encode
  | .moment m           => (fallback (.moment m)).map encode
  | .nested n vs k p    => (fallback (.nested n vs k p)).map encode

def writeItems? (fallback : Value → Option String) : List Value → Option (List String)
  | []      => some []
  | x :: xs =>
      match write? fallback x with
      | some t => (writeItems? fallback xs).map (t :: ·)
      | none   => none

def writeMembers? (fallback : Value → Option String) :
    List (Value × Value) → Option (List String)
  | []           => some []
  | (k, v) :: es =>
      match keyText? k, write? fallback v with
      | some k, some t => (writeMembers? fallback es).map ((encode k ++ ": " ++ t) :: ·)
      | _,      _      => none

end

/-- The JSON text of a value all parts of which have a JSON form. -/
def writePlain? (v : Value) : Option String := write? (fun _ => none) v

end TypeCatalog.Json
