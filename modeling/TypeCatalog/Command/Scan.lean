import TypeCatalog.Command.Misuse
import TypeCatalog.Text.Similar

/-! # The command line — scanning

The words of a command line are switches with their arguments, and other words.  A switch begins
with a dash; its argument is the word after it, or follows an equals sign.  After two dashes no
word is a switch.  Letters may be combined after one dash.

* `scan`: the switches and the other words.
-/

namespace TypeCatalog.Command

/-- The switches that are given, in order, with their arguments; and the other words. -/
structure Scanned where
  switches : List (Switch × String)
  words : List String

namespace Scanned

def withSwitches (given : List (Switch × String)) (s : Scanned) : Scanned :=
  { s with switches := given ++ s.switches }

def withWord (word : String) (s : Scanned) : Scanned := { s with words := word :: s.words }

def has (s : Scanned) (w : Switch) : Bool := s.switches.any fun g => g.1 == w

/-- The argument of a switch; of several the last one counts. -/
def argument? (s : Scanned) (w : Switch) : Option String :=
  ((s.switches.filter fun g => g.1 == w).map Prod.snd).getLast?

/-- The first of the switches given that is one of `ws`. -/
def first? (s : Scanned) (ws : List Switch) : Option Switch :=
  (s.switches.map Prod.fst).find? fun w => ws.contains w

end Scanned

def looksLikeSwitch (word : String) : Bool :=
  word.toList.head? == some '-' && decide (1 < word.length)

/-- A word cut at its first equals sign. -/
def cutAtEquals (word : String) : String × Option String :=
  let cs := word.toList
  (String.ofList (cs.takeWhile (· != '=')),
    match cs.dropWhile (· != '=') with
    | []      => none
    | _ :: cs => some (String.ofList cs))

/-- The switches of combined letters. -/
def letters (allowed : List Switch) : List Char → Except Misuse (List (Switch × String))
  | []      => .ok []
  | c :: cs =>
      match allowed.find? fun w => w.letter? == some c with
      | some w => (letters allowed cs).map ((w, "") :: ·)
      | none   => .error (.unknownSwitch (String.ofList ('-' :: Text.firstHeld (c :: cs))) [])

/-- What a word with a dash holds: switches that are complete, or one whose argument is still to
come. -/
inductive Reading where
  | complete (given : List (Switch × String))
  | awaiting (w : Switch)

def readNamed (w : Switch) : Option String → Except Misuse Reading
  | some value =>
      if w.argument?.isSome then .ok (.complete [(w, value)]) else .error (.argumentGiven w.name)
  | none       => .ok (if w.argument?.isSome then .awaiting w else .complete [(w, "")])

def readSwitch (allowed : List Switch) (word : String) : Except Misuse Reading :=
  let (name, value) := cutAtEquals word
  match allowed.find? fun w => w.name == name with
  | some w => readNamed w value
  | none   =>
      match word.toList with
      | '-' :: '-' :: _ =>
          .error (.unknownSwitch name (Text.closest name (allowed.map Switch.name)))
      | cs              => (letters allowed (cs.drop 1)).map .complete

/-- Scans words, of which the switches `allowed` may be given; unless they are `mixed` with other
words, the first other word ends the switches. -/
def scan (allowed : List Switch) (mixed : Bool) : List String → Except Misuse Scanned
  | []            => .ok ⟨[], []⟩
  | word :: words =>
      if word = "--" then .ok ⟨[], words⟩
      else if looksLikeSwitch word then
        match readSwitch allowed word, words with
        | .error m,             _             => .error m
        | .ok (.complete given), words        =>
            (scan allowed mixed words).map (.withSwitches given)
        | .ok (.awaiting w),    value :: rest =>
            (scan allowed mixed rest).map (.withSwitches [(w, value)])
        | .ok (.awaiting w),    []            => .error (.argumentMissing w.name)
      else if mixed then (scan allowed mixed words).map (.withWord word)
      else .ok ⟨[], word :: words⟩

end TypeCatalog.Command
