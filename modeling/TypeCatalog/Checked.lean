import TypeCatalog.Decimal.Reading
import TypeCatalog.Ordered
import TypeCatalog.Value.Literal

/-! # Checked values

Reading a value as something more definite: a text, a switch, a record with known fields.  A check
goes through the whole value and collects a complaint for every part that is not as it should be,
each with the path to the part, so that a user is told everything at once.

* `Checked.field`, `Checked.fieldOr`: required fields and fields with a default.
* `Checked.onlyFields`: complains about every field that is not expected.
-/

namespace TypeCatalog

/-- Why a part of a value is not as it should be. -/
inductive Cause where
  | missing
  | unexpected
  | notText
  | notUnicode
  | notList
  | notMapping
  | notRecord (name : String)
  | notSwitch
  | unreadableSwitch
  | notOneOf (words : List String)
  | notMember (words : List String)
  | keyNotText
  | rejected (reason : String)
  deriving DecidableEq, Repr

namespace Cause

/-- Words in quotes, the last after `or`. -/
def alternatives (words : List String) : String :=
  match (words.map Text.quote).reverse with
  | []           => ""
  | [w]          => w
  | last :: rest => ", ".intercalate rest.reverse ++ " or " ++ last

/-- A stable word for the kind of cause. -/
def code : Cause → String
  | .missing          => "missing"
  | .unexpected       => "extra_forbidden"
  | .notText          => "string_type"
  | .notUnicode       => "string_unicode"
  | .notList          => "list_type"
  | .notMapping       => "dict_type"
  | .notRecord _      => "model_type"
  | .notSwitch        => "bool_type"
  | .unreadableSwitch => "bool_parsing"
  | .notOneOf _       => "literal_error"
  | .notMember _      => "enum"
  | .keyNotText       => "invalid_key"
  | .rejected _       => "value_error"

def message : Cause → String
  | .missing          => "Field required"
  | .unexpected       => "Extra inputs are not permitted"
  | .notText          => "Input should be a valid string"
  | .notUnicode       =>
      "Input should be a valid string, unable to parse raw data as a unicode string"
  | .notList          => "Input should be a valid list"
  | .notMapping       => "Input should be a valid dictionary"
  | .notRecord name   => "Input should be a valid dictionary or instance of " ++ name
  | .notSwitch        => "Input should be a valid boolean"
  | .unreadableSwitch => "Input should be a valid boolean, unable to interpret input"
  | .notOneOf words   => "Input should be " ++ alternatives words
  | .notMember words  => "Input should be " ++ alternatives words
  | .keyNotText       => "Keys should be strings"
  | .rejected reason  => "Value error, " ++ reason

end Cause

/-- A cause, the path to the part it concerns, and the part itself. -/
structure Complaint where
  path : List String
  cause : Cause
  input : Value

namespace Complaint

def location (c : Complaint) : String := ".".intercalate c.path

/-- The complaint seen from outside the part called `name`. -/
def under (name : String) (c : Complaint) : Complaint := { c with path := name :: c.path }

/-- A complaint about the value at hand. -/
def here (cause : Cause) (input : Value) : Complaint := ⟨[], cause, input⟩

end Complaint

/-- The outcome of a check: what the value stands for, or every complaint about it, or the reason
why checking had to be given up. -/
inductive Checked (α : Type) where
  | valid (a : α)
  | invalid (first : Complaint) (others : List Complaint)
  | abandoned (reason : String)

namespace Checked

variable {α β : Type}

def complaints : Checked α → List Complaint
  | .invalid c cs => c :: cs
  | _             => []

def reject (cause : Cause) (input : Value) : Checked α := .invalid (.here cause input) []

def map (f : α → β) : Checked α → Checked β
  | .valid a          => .valid (f a)
  | .invalid c cs     => .invalid c cs
  | .abandoned reason => .abandoned reason

/-- Both checks, with the complaints of both. -/
def and : Checked α → Checked β → Checked (α × β)
  | .abandoned reason, _                 => .abandoned reason
  | .valid _,          .abandoned reason => .abandoned reason
  | .invalid _ _,      .abandoned reason => .abandoned reason
  | .valid a,          .valid b          => .valid (a, b)
  | .valid _,          .invalid c cs     => .invalid c cs
  | .invalid c cs,     .valid _          => .invalid c cs
  | .invalid c cs,     .invalid d ds     => .invalid c (cs ++ d :: ds)

/-- A further check of what a valid value stands for. -/
def andThen (c : Checked α) (f : α → Checked β) : Checked β :=
  match c with
  | .valid a          => f a
  | .invalid c cs     => .invalid c cs
  | .abandoned reason => .abandoned reason

def under (name : String) : Checked α → Checked α
  | .invalid c cs => .invalid (c.under name) (cs.map (Complaint.under name))
  | r             => r

/-! ### Scalars -/

def isBytes : Value → Bool
  | .bytes _ => true
  | _        => false

/-- A text, or bytes that encode one. -/
def text (v : Value) : Checked String :=
  match v.asText? with
  | some s => .valid s
  | none   => reject (if isBytes v then .notUnicode else .notText) v

def nullable (check : Value → Checked α) : Value → Checked (Option α)
  | .null => .valid none
  | v     => (check v).map some

/-- The letters of an ASCII word in lower case. -/
def lowerWord (s : String) : String := String.ofList (s.toList.map Char.toLower)

def onWords : List String := ["true", "yes", "on", "t", "y", "1"]

def offWords : List String := ["false", "no", "off", "f", "n", "0"]

/-- A switch written as a word, in any case. -/
def switchWord (s : String) (v : Value) : Checked Bool :=
  if onWords.contains (lowerWord s) then .valid true
  else if offWords.contains (lowerWord s) then .valid false
  else reject .unreadableSwitch v

/-- A number as a switch; one below `low` or above `high` is not even taken for a number. -/
def switchNumber (low high i : Int) (v : Value) : Checked Bool :=
  if i < low ∨ high < i then reject .notSwitch v
  else if i = 1 then .valid true
  else if i = 0 then .valid false
  else reject .unreadableSwitch v

/-- A truth value, the number one or zero, or a word for either. -/
def switch (v : Value) : Checked Bool :=
  match v with
  | .bool b   => .valid b
  | .text s   => if Text.isWhole s then switchWord s v else reject .notUnicode v
  | .bytes bs =>
      match Text.ofBytes? bs with
      | some s => switchWord s v
      | none   => reject .unreadableSwitch v
  | .int i    => switchNumber (-Int.pow 2 63) (Int.pow 2 63 - 1) i v
  | .float x  =>
      match Decimal.wholeValue? x with
      | some i => switchNumber (1 - Int.pow 2 63) (Int.pow 2 63 - 1) i v
      | none   => reject .notSwitch v
  | _         => reject .notSwitch v

/-- A text with halves by themselves. -/
def isBroken : Value → Bool
  | .text s => !Text.isWhole s
  | _       => false

/-- One of a few words, taken for a text by `asText?`; `cause` says what is expected instead of
another value. -/
def word (asText? : Value → Option String) (ofWord? : String → Option α) (cause : Cause)
    (v : Value) : Checked α :=
  match (asText? v).bind ofWord? with
  | some a => .valid a
  | none   => reject (if isBroken v then .notUnicode else cause) v

/-! ### Sequences -/

/-- The items from position `i` on. -/
def itemsFrom (check : Value → Checked α) : (i : Nat) → List Value → Checked (List α)
  | _, []      => .valid []
  | i, v :: vs =>
      (((check v).under (toString i)).and (itemsFrom check (i + 1) vs)).map fun p => p.1 :: p.2

def list (check : Value → Checked α) (v : Value) : Checked (List α) :=
  match v.items? with
  | some vs => itemsFrom check 0 vs
  | none    => reject .notList v

/-! ### Mappings and records -/

/-- The name of a key in a path. -/
def keyName : Value → String
  | .text s => Text.lossy s
  | .bool b => if b then "1" else "0"
  | k       => k.literal

def key (k : Value) : Checked String :=
  match text k with
  | .valid s => .valid s
  | r        => (r.under "[key]").under (keyName k)

def entries (check : Value → Checked α) : List (Value × Value) → Checked (Entries String α)
  | []           => .valid []
  | (k, v) :: es =>
      ((key k).and (((check v).under (keyName k)).and (entries check es))).map
        fun p => (p.1, p.2.1) :: p.2.2

/-- The entries by the names of their keys.  Only where a key is given in bytes may another one have
the same name; then the later entry counts. -/
def byName (es : List (Value × Value)) (fields : Entries String α) : Entries String α :=
  if es.any fun e => isBytes e.1 then Entries.ofList fields else fields

/-- A mapping from texts. -/
def mapping (check : Value → Checked α) (v : Value) : Checked (Entries String α) :=
  match v.entries? with
  | some es => (entries check es).map (byName es)
  | none    => reject .notMapping v

/-- The fields of a record called `name`. -/
def record (name : String) (v : Value) : Checked (List (Value × Value)) :=
  match v.entries? with
  | some es => .valid es
  | none    => reject (.notRecord name) v

/-- A field that has to be there, in the record `whole`. -/
def field (whole : Value) (fields : List (Value × Value)) (name : String)
    (check : Value → Checked α) : Checked α :=
  match Value.field? name fields with
  | some v => (check v).under name
  | none   => (reject .missing whole).under name

/-- A field that has a default. -/
def fieldOr (fields : List (Value × Value)) (name : String) (default : α)
    (check : Value → Checked α) : Checked α :=
  match Value.field? name fields with
  | some v => (check v).under name
  | none   => .valid default

/-- Complains about every field whose name is not among `names`. -/
def onlyFields (names : List String) : List (Value × Value) → Checked Unit
  | []           => .valid ()
  | (k, v) :: es =>
      let this : Checked Unit := match k with
        | .text s => if names.contains s then .valid () else (reject .unexpected v).under s
        | _       => (reject .keyNotText k).under (keyName k)
      (this.and (onlyFields names es)).map fun _ => ()

end Checked

end TypeCatalog
