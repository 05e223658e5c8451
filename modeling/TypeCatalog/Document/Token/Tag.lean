import TypeCatalog.Decimal.Reading
import TypeCatalog.Document.Cursor
import TypeCatalog.Document.Token

/-! # Documents — names, tags and directives

An anchor names a part, an alias stands for a part named before, and a tag says what kind of value
a part is.  Directives in front of a document give the version of the notation and handles for
tags.

* `Cursor.name?`, `Cursor.tag?`, `Cursor.directive?`: what is at the cursor.
-/

namespace TypeCatalog.Document.Cursor

/-! ### Names -/

def isNameChar (c : Char) : Bool := c.isAlphanum || c == '-' || c == '_'

/-- What may follow a name. -/
def endsName : List Char → Bool
  | []      => true
  | c :: cs => endsWord (c :: cs) || ['?', ':', ',', ']', '\x7d', '%', '@', '\x60'].contains c

/-- The name after the indicator at the cursor. -/
def name? (c : Cursor) : Option (String × Cursor) :=
  let (cs, after) := c.step.takeWhile isNameChar
  if cs.isEmpty || !endsName after.rest then none else some (String.ofList cs, after)

/-! ### Tags -/

/-- The characters of a tag that stand for themselves. -/
def isTagChar (c : Char) : Bool :=
  c.isAlphanum || ['-', ';', '/', '?', ':', '@', '&', '=', '+', '$', ',', '_', '.', '!', '~', '*',
    '\x27', '(', ')', '[', ']'].contains c

/-- The bytes written as a percent sign and two digits each, and the text after them; there are none
if digits are missing. -/
def escapedBytes? : List Char → Option (List UInt8 × Nat)
  | '%' :: a :: b :: cs =>
      if Decimal.isHexDigit a && Decimal.isHexDigit b then
        (escapedBytes? cs).map fun r =>
          (UInt8.ofNat (Decimal.natOfDigits 16 [a, b]) :: r.1, r.2 + 3)
      else none
  | '%' :: _            => none
  | _                   => some ([], 0)

/-- The text that a run of escaped bytes stands for, and the cursor after it. -/
def escapedText? (c : Cursor) : Option (List Char × Cursor) := do
  let (bytes, n) ← escapedBytes? c.rest
  let text ← String.fromUTF8? ⟨bytes.toArray⟩
  return (text.toList, c.advance n)

/-- The characters of a tag.  Every round takes at least one. -/
def tagRounds : (rounds : Nat) → Cursor → Option (List Char × Cursor)
  | 0,          _ => none
  | rounds + 1, c =>
      let (cs, c) := c.takeWhile isTagChar
      if c.atChar '%' then do
        let (es, c) ← c.escapedText?
        let (more, c) ← tagRounds rounds c
        return (cs ++ es ++ more, c)
      else some (cs, c)

/-- The characters of a tag, of which there has to be one. -/
def tagText? (c : Cursor) : Option (String × Cursor) :=
  match tagRounds (c.rest.length + 1) c with
  | some ([], _) => none
  | some (cs, c) => some (String.ofList cs, c)
  | none         => none

/-- A handle: an exclamation mark, alone before a space, else with a name and another one. -/
def handle? (c : Cursor) : Option (String × Cursor) :=
  if !c.atChar '!' then none
  else if c.step.atChar ' ' then some ("!", c.step)
  else
    let (cs, after) := c.step.takeWhile isNameChar
    if after.atChar '!' then some ("!" ++ String.ofList cs ++ "!", after.step) else none

/-- A second exclamation mark stands before the end of the part. -/
def hasHandle (c : Cursor) : Bool :=
  (c.rest.takeWhile fun d => !(d == ' ' || isBreak d)).contains '!'

/-- The handle and the rest of the tag at the cursor, whatever follows. -/
def tagBody? (c : Cursor) : Option (Option String × String × Cursor) :=
  if c.step.atChar '<' then do
    let (text, after) ← (c.advance 2).tagText?
    if after.atChar '>' then some (none, text, after.step) else none
  else if endsWord c.step.rest then some (none, "!", c.step)
  else if c.step.hasHandle then do
    let (handle, c) ← c.handle?
    let (text, after) ← c.tagText?
    return (some handle, text, after)
  else do
    let (text, after) ← c.step.tagText?
    return (some "!", text, after)

/-- The handle and the rest of the tag at the cursor; a space or the end of the line follows it. -/
def tag? (c : Cursor) : Option (Option String × String × Cursor) :=
  c.tagBody?.filter fun r => endsPart r.2.2.rest

/-! ### Directives -/

/-- The digits at the cursor, of which there has to be one. -/
def number? (c : Cursor) : Option (Nat × Cursor) :=
  let (cs, after) := c.takeWhile Char.isDigit
  if cs.isEmpty then none else some (Decimal.natOfDigits 10 cs, after)

def spaces (c : Cursor) : Cursor := (c.takeWhile (· == ' ')).2

/-- Two numbers with a full stop between them. -/
def version? (c : Cursor) : Option (Directive × Cursor) := do
  let (major, c) ← c.spaces.number?
  if !c.atChar '.' then none
  let (_, c) ← c.step.number?
  if endsPart c.rest then some (.version major, c) else none

/-- A handle and what it stands for. -/
def handleFront? (c : Cursor) : Option (Directive × Cursor) := do
  let (name, c) ← c.spaces.handle?
  if !c.atChar ' ' then none
  let (front, c) ← c.spaces.tagText?
  if endsPart c.rest then some (.handle name front, c) else none

/-- The directive at the cursor. -/
def directive? (c : Cursor) : Option (Directive × Cursor) := do
  let (cs, after) := c.step.takeWhile isNameChar
  if cs.isEmpty || !endsPart after.rest then none
  let (d, after) ← match String.ofList cs with
    | "YAML" => after.version?
    | "TAG"  => after.handleFront?
    | _      => some (.other, (after.takeWhile fun d => !isBreak d).2)
  return (d, ← after.endLine?)

end TypeCatalog.Document.Cursor
