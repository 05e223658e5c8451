import TypeCatalog.Text.Half

/-! # Text — similar words

How alike two texts are is measured by what they share: their longest common run of codes, and what
they share on either side of it.  Where several runs are longest, the one that starts first counts.

* `shared`: how many codes two texts share.
* `closest`: the words most like a given one.
-/

namespace TypeCatalog.Text

/-- How many codes two texts begin with in common. -/
def commonStart : List Nat → List Nat → Nat
  | a :: as, b :: bs => if a = b then commonStart as bs + 1 else 0
  | _,       _       => 0

/-- A run of characters found in two texts: its place in each, and its length. -/
structure CommonRun where
  first : Nat
  second : Nat
  length : Nat

/-- The common runs of two texts, by their places. -/
def commonRuns (as bs : List Nat) : List CommonRun :=
  (List.range as.length).flatMap fun i =>
    (List.range bs.length).map fun j => ⟨i, j, commonStart (as.drop i) (bs.drop j)⟩

/-- The longest common run, and of several the first. -/
def longestRun (as bs : List Nat) : CommonRun :=
  (commonRuns as bs).foldl (fun best r => if best.length < r.length then r else best) ⟨0, 0, 0⟩

/-- How many codes two texts share, looking for runs at most `depth` levels deep. -/
def sharedWithin : (depth : Nat) → List Nat → List Nat → Nat
  | 0,         _,  _  => 0
  | depth + 1, as, bs =>
      let r := longestRun as bs
      if r.length = 0 then 0
      else r.length + sharedWithin depth (as.take r.first) (bs.take r.second)
        + sharedWithin depth (as.drop (r.first + r.length)) (bs.drop (r.second + r.length))

/-- How many codes two texts share.  Each level takes a run off the first text, so there are not
more levels than it has codes. -/
def shared (as bs : List Nat) : Nat := sharedWithin as.length as bs

/-- A word with what it shares with a given one, and the lengths of both together. -/
structure Likeness where
  word : String
  shared : Nat
  total : Nat

namespace Likeness

def of (given word : String) : Likeness :=
  let cs := codes word.toList
  let ds := codes given.toList
  ⟨word, Text.shared cs ds, cs.length + ds.length⟩

/-- At least three fifths of the codes are shared. -/
def isClose (l : Likeness) : Bool := decide (3 * l.total ≤ 10 * l.shared)

/-- Is at least as close; of words equally close the later one in the alphabet comes first. -/
def precedes (l m : Likeness) : Bool :=
  if l.shared * m.total = m.shared * l.total then decide (m.word ≤ l.word)
  else decide (m.shared * l.total < l.shared * m.total)

end Likeness

/-- The three words that are closest to a given one, if they are close at all, in alphabetical
order. -/
def closest (given : String) (words : List String) : List String :=
  let close := (words.map (Likeness.of given)).filter Likeness.isClose
  (((close.mergeSort Likeness.precedes).take 3).map Likeness.word).mergeSort
    fun a b => decide (a ≤ b)

end TypeCatalog.Text
