import TypeCatalog.Text.Emoji
import TypeCatalog.Text.Style

/-! # Text — style tags

A text may hold tags in square brackets that set a style and take it back.  Without colours only the
rest is shown; tags have to match nevertheless.  A backslash before a tag makes it text, and emoji
may stand by name.

* `untagged`: what is shown of a text with tags.
-/

namespace TypeCatalog.Text

/-- Why tags do not match, with the place of the tag in the text. -/
inductive TagFault where
  | notOpen (tag : String) (place : Nat)
  | nothingOpen (place : Nat)
  deriving DecidableEq, Repr

def TagFault.message : TagFault → String
  | .notOpen tag place  =>
      "closing tag '" ++ tag ++ "' at position " ++ toString place ++ " doesn't match any open tag"
  | .nothingOpen place  =>
      "closing tag '[/]' at position " ++ toString place ++ " has nothing to close"

/-! ### Tags -/

/-- A part of a text: characters, or what stands in the brackets of a tag at a place. -/
inductive Part where
  | chars (cs : List Char)
  | tag (place : Nat) (content : List Char)

/-- A character that what stands in brackets can start with. -/
def startsTag (c : Char) : Bool := ('a' ≤ c && c ≤ 'z') || ['#', '/', '@'].contains c

/-- What stands in the brackets that characters start with, if they are those of a tag. -/
def tagAt? : List Char → Option (List Char)
  | '[' :: c :: cs =>
      let content := cs.takeWhile fun d => d != '[' && d != ']'
      if startsTag c && (cs.drop content.length).head? == some ']' then some (c :: content)
      else none
  | _              => none

/-- The backslashes at the start of characters, with the tag after them. -/
def escapedTag? (cs : List Char) : Option (Nat × List Char) :=
  let slashes := cs.takeWhile (· == '\x5c')
  (tagAt? (cs.drop slashes.length)).map fun content => (slashes.length, content)

/-- The parts for a tag at a place after a number of backslashes: every two of them stand for one,
and one that is left makes the tag text. -/
def tagParts (place slashes : Nat) (content : List Char) : List Part :=
  let kept := .chars (List.replicate (slashes / 2) '\x5c')
  if slashes % 2 = 1 then [kept, .chars ('[' :: content ++ [']'])]
  else [kept, .tag (place + slashes) content]

/-- The parts of a text from a place on; `skip` characters belong to the part before, and `plain`
are those of this part so far, from the last on. -/
def partsFrom (place skip : Nat) (plain : List Char) : List Char → List Part
  | []      => [.chars plain.reverse]
  | c :: cs =>
      if skip = 0 then
        match escapedTag? (c :: cs) with
        | some (slashes, content) =>
            .chars plain.reverse :: (tagParts place slashes content
              ++ partsFrom (place + 1) (slashes + content.length + 1) [] cs)
        | none                    => partsFrom (place + 1) 0 (c :: plain) cs
      else partsFrom (place + 1) (skip - 1) plain cs

/-! ### What is shown -/

/-- The controls that are never shown. -/
def isSilent (c : Char) : Bool := [0x07, 0x08, 0x0B, 0x0C, 0x0D].contains c.toNat

/-- A bracket after a backslash is a bracket. -/
def unescaped : List Char → List Char
  | '\x5c' :: '[' :: cs => '[' :: unescaped cs
  | c :: cs             => c :: unescaped cs
  | []                  => []

def shownChars (cs : List Char) : List Char :=
  (withEmoji (unescaped cs)).filter fun c => !isSilent c

/-- The name of a tag, without what is set after it. -/
def tagName (content : List Char) : List Char := content.takeWhile (· != '=')

/-- The styles that are open after a tag at a place, the last one first. -/
def openAfter (styles : List String) (place : Nat) (content : List Char) :
    Except TagFault (List String) :=
  match tagName content with
  | '/' :: name =>
      let name := trim name
      if name.isEmpty then
        if styles.isEmpty then .error (.nothingOpen place) else .ok styles.tail
      else
        let style := normalStyle (String.ofList name)
        if styles.contains style then .ok (styles.erase style)
        else .error (.notOpen (String.ofList ('[' :: content ++ [']'])) place)
  | name        => .ok (normalStyle (String.ofList name) :: styles)

/-- What is shown of parts, with the styles that are open. -/
def shownParts (styles : List String) : List Part → Except TagFault (List Char)
  | []                         => .ok []
  | .chars cs :: parts          => do return shownChars cs ++ (← shownParts styles parts)
  | .tag place content :: parts => do shownParts (← openAfter styles place content) parts

def untagged (s : String) : Except TagFault String :=
  (shownParts [] (partsFrom 0 0 [] s.toList)).map String.ofList

end TypeCatalog.Text
