import TypeCatalog.Document.Node
import TypeCatalog.Document.Token

/-! # Documents — from tokens to nodes

Each part may have an anchor and a tag in front of it.  A part that is missing where there may be
one is an empty scalar.  Aliases stand for the parts whose anchors they name, which may be the parts
they are in, and an anchor may be given only once.

* `Graph.ofTokens`: the one document of a list of tokens, if there is any.
-/

namespace TypeCatalog.Document

/-- The tokens left, the handles of tags, the parts so far, and the places of those with anchors. -/
structure Parser where
  rest : List Token
  handles : Entries String String
  nodes : Array Node
  anchors : Entries String Nat

namespace Parser

/-- What the tags of the standard kinds start with. -/
def standardFront : String := "tag:yaml.org,2002:"

/-- The handles every document has. -/
def standardHandles : Entries String String := [("!", "!"), ("!!", standardFront)]

def start (ts : List Token) : Parser := ⟨ts, standardHandles, #[], []⟩

/-- The next token. -/
def peek (p : Parser) : Except Fault Token :=
  match p.rest with
  | .broken f :: _ => .error f
  | t :: _         => .ok t
  | []             => .error .malformed

/-- The parser past one token. -/
def drop (p : Parser) : Parser := { p with rest := p.rest.tail }

/-! ### Properties -/

/-- An anchor and a tag in front of a part. -/
structure Properties where
  anchor : Option String
  tag : Option (Option String × String)

/-- The properties in front of a part, in either order. -/
def properties (p : Parser) : Except Fault (Properties × Parser) := do
  match ← p.peek with
  | .anchor n =>
      match ← p.drop.peek with
      | .tag h s => return (⟨some n, some (h, s)⟩, p.drop.drop)
      | _        => return (⟨some n, none⟩, p.drop)
  | .tag h s  =>
      match ← p.drop.peek with
      | .anchor n => return (⟨some n, some (h, s)⟩, p.drop.drop)
      | _         => return (⟨none, some (h, s)⟩, p.drop)
  | _         => return (⟨none, none⟩, p)

/-- The whole tag that a handle and the rest of a tag stand for. -/
def wholeTag (p : Parser) : Option (Option String × String) → Except Fault (Option String)
  | none             => .ok none
  | some (none, s)   => .ok (some s)
  | some (some h, s) =>
      match p.handles.get? h with
      | some front => .ok (some (front ++ s))
      | none       => .error .malformed

/-- The kind for a tag; without a tag of its own a part has the kind `default`. -/
def kindFor (default : Kind) : Option String → Kind
  | none     => default
  | some "!" => default
  | some tag => Kind.ofTag standardFront tag

/-- Adds a part that is complete; its place comes with the parser. -/
def add (p : Parser) (node : Node) : Nat × Parser :=
  (p.nodes.size, { p with nodes := p.nodes.push node })

/-- Adds a part that was left out. -/
def addMissing (p : Parser) : Nat × Parser := p.add .missing

/-- Keeps a place for a part that begins, under its anchor if it has one. -/
def begin (p : Parser) (anchor : Option String) : Except Fault (Nat × Parser) :=
  match anchor with
  | none   => .ok p.addMissing
  | some n =>
      if (p.anchors.get? n).isSome then .error .malformed
      else
        let (i, q) := p.addMissing
        .ok (i, { q with anchors := Entries.put n i q.anchors })

/-- Puts a part in the place that is kept for it. -/
def finish (p : Parser) (i : Nat) (node : Node) : Nat × Parser :=
  (i, { p with nodes := p.nodes.setIfInBounds i node })

/-- The place of the part an alias stands for. -/
def named (p : Parser) (name : String) : Except Fault Nat :=
  match p.anchors.get? name with
  | some i => .ok i
  | none   => .error .malformed

/-! ### Ends -/

/-- After the mark of an item: there is no item. -/
def endsEntry : Token → Bool
  | .entry    => true
  | .blockEnd => true
  | _         => false

/-- After the dash of an item of a sequence that is not indented: there is no item. -/
def endsLevelEntry : Token → Bool
  | .entry    => true
  | .key      => true
  | .value    => true
  | .blockEnd => true
  | _         => false

/-- After the mark of a key or a value: there is none. -/
def endsMember : Token → Bool
  | .key      => true
  | .value    => true
  | .blockEnd => true
  | _         => false

def isCloseBracket : Token → Bool
  | .closeBracket => true
  | _             => false

def isCloseBrace : Token → Bool
  | .closeBrace => true
  | _           => false

def isComma : Token → Bool
  | .comma => true
  | _      => false

def isValue : Token → Bool
  | .value => true
  | _      => false

/-! ### Parts -/

/-- How a part may be laid out: as a block, and as a sequence that is not indented. -/
structure Layout where
  block : Bool
  level : Bool

mutual

/-- A part with its properties.  `fuel` bounds the steps; every few of them take a token. -/
def part : (fuel : Nat) → Layout → Parser → Except Fault (Nat × Parser)
  | 0,        _,      _ => .error .malformed
  | fuel + 1, layout, p => do
      match ← p.peek with
      | .alias n => return (← p.named n, p.drop)
      | _        =>
          let (props, q) ← p.properties
          let tag ← q.wholeTag props.tag
          match ← q.peek with
          | .scalar plain text =>
              let implicit := if plain || tag == some "!" then Kind.ofPlain text.toList else .text
              let (i, q) ← q.begin props.anchor
              return q.drop.finish i (.scalar (kindFor implicit tag) text)
          | t                  =>
              let (i, q) ← q.begin props.anchor
              let sequence (r : List Nat × Parser) : Nat × Parser :=
                r.2.finish i (.sequence (kindFor .list tag) r.1)
              let mapping (r : List (Nat × Nat) × Parser) : Nat × Parser :=
                r.2.finish i (.mapping (kindFor .dict tag) r.1)
              match t with
              | .entry         =>
                  if layout.level then return sequence (← levelItems fuel [] q)
                  else empty props tag i q
              | .openBracket   => return sequence (← bracketItems fuel true [] q.drop)
              | .openBrace     => return mapping (← braceEntries fuel true [] q.drop)
              | .sequenceStart =>
                  if layout.block then return sequence (← blockItems fuel [] q.drop)
                  else empty props tag i q
              | .mappingStart  =>
                  if layout.block then return mapping (← blockEntries fuel [] q.drop)
                  else empty props tag i q
              | _              => empty props tag i q

/-- A part that has properties only. -/
def empty (props : Properties) (tag : Option String) (i : Nat) (p : Parser) :
    Except Fault (Nat × Parser) :=
  if props.anchor.isNone && tag.isNone then .error .malformed
  else .ok (p.finish i (.scalar (kindFor .null tag) ""))

/-- The items of an indented sequence, after the items `done` in reverse. -/
def blockItems : (fuel : Nat) → (done : List Nat) → Parser → Except Fault (List Nat × Parser)
  | 0,        _,    _ => .error .malformed
  | fuel + 1, done, p => do
      match ← p.peek with
      | .entry    =>
          if endsEntry (← p.drop.peek) then
            let (v, q) := p.drop.addMissing
            blockItems fuel (v :: done) q
          else
            let (v, q) ← part fuel ⟨true, false⟩ p.drop
            blockItems fuel (v :: done) q
      | .blockEnd => return (done.reverse, p.drop)
      | _         => throw .malformed

/-- The items of a sequence that is not indented. -/
def levelItems : (fuel : Nat) → (done : List Nat) → Parser → Except Fault (List Nat × Parser)
  | 0,        _,    _ => .error .malformed
  | fuel + 1, done, p => do
      match ← p.peek with
      | .entry =>
          if endsLevelEntry (← p.drop.peek) then
            let (v, q) := p.drop.addMissing
            levelItems fuel (v :: done) q
          else
            let (v, q) ← part fuel ⟨true, false⟩ p.drop
            levelItems fuel (v :: done) q
      | _      => return (done.reverse, p)

/-- The part after the mark of a key or a value. -/
def member : (fuel : Nat) → Parser → Except Fault (Nat × Parser)
  | 0,        _ => .error .malformed
  | fuel + 1, p => do
      if endsMember (← p.peek) then return p.addMissing else part fuel ⟨true, true⟩ p

/-- The entries of a mapping in a block, after the entries `done` in reverse.  A value may stand
without a key only after one. -/
def blockEntries : (fuel : Nat) → (done : List (Nat × Nat)) → Parser →
    Except Fault (List (Nat × Nat) × Parser)
  | 0,        _,    _ => .error .malformed
  | fuel + 1, done, p => do
      match ← p.peek with
      | .key      =>
          let (k, q) ← member fuel p.drop
          if isValue (← q.peek) then
            let (v, r) ← member fuel q.drop
            blockEntries fuel ((k, v) :: done) r
          else
            let (v, r) := q.addMissing
            blockEntries fuel ((k, v) :: done) r
      | .blockEnd => return (done.reverse, p.drop)
      | _         => throw .malformed

/-- The part after the mark of a key or a value in brackets, which end with `closes`. -/
def flowMember (closes : Token → Bool) (afterKey : Bool) :
    (fuel : Nat) → Parser → Except Fault (Nat × Parser)
  | 0,        _ => .error .malformed
  | fuel + 1, p => do
      let t ← p.peek
      if isComma t || closes t || (afterKey && isValue t) then return p.addMissing
      else part fuel ⟨false, false⟩ p

/-- A key and a value in brackets, after the mark of the key. -/
def flowEntry (closes : Token → Bool) :
    (fuel : Nat) → Parser → Except Fault ((Nat × Nat) × Parser)
  | 0,        _ => .error .malformed
  | fuel + 1, p => do
      let (k, q) ← flowMember closes true fuel p
      if isValue (← q.peek) then
        let (v, r) ← flowMember closes false fuel q.drop
        return ((k, v), r)
      else
        let (v, r) := q.addMissing
        return ((k, v), r)

/-- The items up to the closing bracket, after the items `done` in reverse. -/
def bracketItems : (fuel : Nat) → (first : Bool) → (done : List Nat) → Parser →
    Except Fault (List Nat × Parser)
  | 0,        _,     _,    _ => .error .malformed
  | fuel + 1, first, done, p => do
      if isCloseBracket (← p.peek) then return (done.reverse, p.drop)
      if !first && !isComma (← p.peek) then throw .malformed
      let p := if first then p else p.drop
      match ← p.peek with
      | .key          =>
          let (e, q) ← flowEntry isCloseBracket fuel p.drop
          let (v, r) := q.add (.mapping .dict [e])
          bracketItems fuel false (v :: done) r
      | .closeBracket => return (done.reverse, p.drop)
      | _             =>
          let (v, q) ← part fuel ⟨false, false⟩ p
          bracketItems fuel false (v :: done) q

/-- The entries up to the closing brace, after the entries `done` in reverse. -/
def braceEntries : (fuel : Nat) → (first : Bool) → (done : List (Nat × Nat)) → Parser →
    Except Fault (List (Nat × Nat) × Parser)
  | 0,        _,     _,    _ => .error .malformed
  | fuel + 1, first, done, p => do
      if isCloseBrace (← p.peek) then return (done.reverse, p.drop)
      if !first && !isComma (← p.peek) then throw .malformed
      let p := if first then p else p.drop
      match ← p.peek with
      | .key        =>
          let (e, q) ← flowEntry isCloseBrace fuel p.drop
          braceEntries fuel false (e :: done) q
      | .closeBrace => return (done.reverse, p.drop)
      | _           =>
          let (k, q) ← part fuel ⟨false, false⟩ p
          let (v, r) := q.addMissing
          braceEntries fuel false ((k, v) :: done) r

end

/-! ### Documents -/

/-- The handles that directives in front of a document give. -/
def directives (versioned : Bool) (given : Entries String String) :
    List Token → Except Fault (Entries String String × List Token)
  | .directive (.version major) :: ts       =>
      if versioned || major != 1 then .error .malformed else directives true given ts
  | .directive (.handle name front) :: ts   =>
      if (given.get? name).isSome then .error .malformed
      else directives versioned (Entries.put name front given) ts
  | .directive .other :: ts                 => directives versioned given ts
  | ts                                      => .ok (given, ts)

/-- The handles of a document: those given, and the others of every document. -/
def withStandard (given : Entries String String) : Entries String String :=
  given ++ standardHandles.filter fun h => (given.get? h.1).isNone

/-- No part follows the mark that starts a document. -/
def endsDocument : Token → Bool
  | .directive _   => true
  | .documentStart => true
  | .documentEnd   => true
  | .finish        => true
  | _              => false

/-- The document at the front, without its end. -/
def document (p : Parser) : Except Fault (Nat × Parser) := do
  let fuel := 4 * p.rest.length + 8
  match ← p.peek with
  | .directive _   => marked fuel
  | .documentStart => marked fuel
  | _              => part fuel ⟨true, false⟩ p
where
  /-- A document after directives and the mark that starts it. -/
  marked (fuel : Nat) : Except Fault (Nat × Parser) := do
    let (given, ts) ← directives false [] p.rest
    let q := { p with rest := ts, handles := withStandard given }
    match ← q.peek with
    | .documentStart =>
        if endsDocument (← q.drop.peek) then return q.drop.addMissing
        else part fuel ⟨true, false⟩ q.drop
    | _              => throw .malformed

/-- Nothing but marks of a document's end is left. -/
def atFinish (p : Parser) : Except Fault Bool :=
  match p.rest.dropWhile fun t => match t with
      | .documentEnd => true
      | _            => false with
  | .finish :: _   => .ok true
  | .broken f :: _ => .error f
  | _              => .ok false

end Parser

/-- The one document of the tokens; there is none if there is nothing in them. -/
def Graph.ofTokens (ts : List Token) : Except Fault (Option Graph) := do
  let p := Parser.start ts
  match ← p.peek with
  | .finish => return none
  | _       =>
      let (root, q) ← p.document
      if ← q.atFinish then return some ⟨q.nodes, root⟩ else throw .malformed

end TypeCatalog.Document
