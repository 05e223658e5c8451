import TypeCatalog.Proofs.Text.Brackets
import TypeCatalog.TypeRef.Reader

/-! # Type references — the parts of a text

The reader cuts a text in two places: a union at its bars, and the arguments of a name at their
commas.  Separators in brackets do not count, and what the reader goes on with are the pieces
without the blanks around them.  These are the parts of the text (`topParts`); a text whose brackets
do not balance has none.

How many there are is said by counting positions (`outsideCount`).  The cutting goes from character
to character and keeps the number of open brackets, so the count is taken for a text that comes
after `depth` open brackets (`meetings`), and the induction is the one on texts that close them.

* `plainProduction_eq`, `bodyProduction_eq`: the reader sees a union and arguments by their parts.
* `length_topPieces`: there is one piece more than there are separators outside brackets.
* `topParts_cuts`: which texts have parts, and what these are.
-/

namespace TypeCatalog

/-! ### Counting separators -/

namespace Text

/-- How often `sep` stands in the text outside brackets. -/
def outsideCount (sep : Char) (cs : List Char) : Nat :=
  (List.range cs.length).countP fun i =>
    cs[i]? = some sep ∧ (cs.take i).count ']' = (cs.take i).count '['

/-- How often `sep` stands in the text where no bracket is open, `depth` being open before the
text. -/
def meetings (sep : Char) (depth : Nat) (cs : List Char) : Nat :=
  (List.range cs.length).countP fun i =>
    cs[i]? = some sep ∧ (cs.take i).count ']' = (cs.take i).count '[' + depth

theorem meetings_zero {sep : Char} {cs : List Char} : meetings sep 0 cs = outsideCount sep cs := rfl

variable {sep c : Char} {d : Nat} {cs : List Char} {ps : List (List Char)}

@[simp] theorem meetings_nil : meetings sep d [] = 0 := rfl

/-- The first character counts if it is the separator and no bracket is open. -/
theorem meetings_cons :
    meetings sep d (c :: cs) =
      ((List.range cs.length).countP fun i => cs[i]? = some sep ∧
        (c :: cs.take i).count ']' = (c :: cs.take i).count '[' + d)
      + if c = sep ∧ d = 0 then 1 else 0 := by
  rw [meetings, List.length_cons, List.range_succ_eq_map, List.countP_cons, List.countP_map]
  congr 1
  simp [@eq_comm Nat 0 d]

theorem meetings_open (hs : ¬ IsBracket sep) :
    meetings sep d ('[' :: cs) = meetings sep (d + 1) cs := by
  simp only [IsBracket, not_or] at hs
  rw [meetings_cons]
  simp [meetings, Ne.symm hs.1, Nat.add_right_comm, Nat.add_assoc]

theorem meetings_close : meetings sep (d + 1) (']' :: cs) = meetings sep d cs := by
  rw [meetings_cons]
  simp [meetings, ← Nat.add_assoc]

theorem meetings_other (hc : ¬ IsBracket c) :
    meetings sep d (c :: cs) = meetings sep d cs + if c = sep ∧ d = 0 then 1 else 0 := by
  simp only [IsBracket, not_or] at hc
  rw [meetings_cons]
  simp [meetings, hc.1, hc.2]

/-! ### Counting pieces -/

theorem length_growFirst (h : ps ≠ []) : (growFirst c ps).length = ps.length := by
  obtain ⟨p, ps, rfl⟩ := List.exists_cons_of_ne_nil h
  rfl

/-- A character that goes into the first piece adds no piece. -/
theorem length_of_grown {n : Nat} (h : (topPieces sep cs d).map (growFirst c) = some ps)
    (rest : ∀ qs, topPieces sep cs d = some qs → qs.length = n) : ps.length = n := by
  obtain ⟨qs, hq, rfl⟩ := Option.map_eq_some_iff.1 h
  rw [length_growFirst (topPieces_spec sep cs d hq).1, rest qs hq]

/-- A text that closes the brackets open before it has one piece more than there are separators in
it where none is open. -/
theorem length_of_closes (hs : ¬ IsBracket sep) (h : Closes d cs) :
    ∀ ps, topPieces sep cs d = some ps → ps.length = meetings sep d cs + 1 := by
  induction h using closes_induction with
  | nil =>
      intro ps hp
      obtain rfl := Option.some.inj hp
      rfl
  | opening d cs _ ih =>
      intro ps hp
      rw [topPieces, if_pos rfl] at hp
      rw [meetings_open hs]
      exact length_of_grown hp ih
  | closing d cs _ ih =>
      intro ps hp
      rw [topPieces, if_neg (by decide), if_pos rfl, if_neg (by omega), Nat.add_sub_cancel] at hp
      rw [meetings_close]
      exact length_of_grown hp ih
  | other d c cs hc _ ih =>
      intro ps hp
      rw [meetings_other hc]
      simp only [IsBracket, not_or] at hc
      rw [topPieces, if_neg hc.1, if_neg hc.2] at hp
      split at hp
      · -- the first piece ends here, and a further one starts
        rename_i hsep
        obtain ⟨qs, hq, rfl⟩ := Option.map_eq_some_iff.1 hp
        obtain ⟨rfl, rfl⟩ := hsep
        rw [List.length_cons, ih qs hq, if_pos ⟨rfl, rfl⟩]
      · rename_i hsep
        rw [if_neg hsep, Nat.add_zero]
        exact length_of_grown hp ih

/-- **How many pieces** a text has: one more than there are separators outside brackets. -/
theorem length_topPieces (hs : ¬ IsBracket sep) (h : topPieces sep cs 0 = some ps) :
    ps.length = outsideCount sep cs + 1 := by
  have balanced : Balanced cs := topPieces_isSome_iff.1 (Option.isSome_of_eq_some h)
  have closes : Closes 0 cs := balanced
  rw [← meetings_zero]
  exact length_of_closes hs closes ps h

/-- No piece has a separator outside brackets: it would be cut there. -/
theorem IsPieces.outsideCount_eq_zero (hs : ¬ IsBracket sep) (h : IsPieces sep cs ps)
    {p : List Char} (hp : p ∈ ps) : outsideCount sep p = 0 := by
  have whole : topPieces sep p 0 = some [p] := topPieces_whole hs (h.balanced p hp) (h.inside p hp)
  have one : 1 = outsideCount sep p + 1 := length_topPieces hs whole
  omega

end Text

/-! ### Parts -/

namespace TypeRef

open Text

/-- The parts of a text: its pieces between the separators outside brackets, without the blanks
around them. -/
def topParts (sep : Char) (source : List Char) : Except TypeFault (List (List Char)) :=
  match topPieces sep source 0 with
  | none    => .error (invalid source .unbalanced)
  | some ps => .ok (ps.map trim)

/-- **A union** is read by its parts, of which there are several. -/
theorem plainProduction_eq (text source : List Char) :
    plainProduction text source = (topParts '|' source).bind fun members =>
      if 1 < members.length then unionProduction text members
      else if source.getLast? = some ']' then subscriptProduction text source
      else nameProduction text source := by
  unfold plainProduction topParts
  cases topPieces '|' source 0 with
  | none => rfl
  | some ps =>
      match ps with
      | []          => rfl
      | [p]         => rfl
      | p :: q :: r => simp [Except.bind]

/-- **Arguments** are read by their parts, none of which is empty. -/
theorem bodyProduction_eq (text : List Char) (base : String) (body : List Char) :
    bodyProduction text base body = (topParts ',' body).bind fun args =>
      if [] ∈ args then .error (invalid text .emptyArgument)
      else argumentProduction text base args := by
  unfold bodyProduction topParts
  cases topPieces ',' body 0 with
  | none => rfl
  | some ps => simp [Except.bind]

variable {sep : Char} {source : List Char}

theorem topParts_eq_ok_iff {parts : List (List Char)} :
    topParts sep source = .ok parts ↔
      ∃ ps, topPieces sep source 0 = some ps ∧ ps.map trim = parts := by
  unfold topParts
  cases topPieces sep source 0 <;> simp

/-- **The parts of a text.**  Just the texts whose brackets balance have parts, and any other is
reported as unbalanced.  The parts are pieces without the blanks around them; the pieces, with the
separator between each two, make up the text; each of them is balanced and has no separator outside
brackets; and there is one more of them than there are such separators in the text. -/
theorem topParts_cuts (hs : ¬ IsBracket sep) (source : List Char) :
    ((∃ parts, topParts sep source = .ok parts) ↔ Balanced source) ∧
    (topParts sep source = .error (invalid source .unbalanced) ↔ ¬ Balanced source) ∧
    ∀ parts, topParts sep source = .ok parts →
      ∃ ps, topPieces sep source 0 = some ps ∧ parts = ps.map trim ∧ glue sep ps = source ∧
        (∀ p ∈ ps, Balanced p ∧ outsideCount sep p = 0) ∧
        ps.length = outsideCount sep source + 1 := by
  have balanced : (topPieces sep source 0).isSome ↔ Balanced source := topPieces_isSome_iff
  refine ⟨?_, ?_, ?_⟩
  · rw [← balanced, topParts]
    cases topPieces sep source 0 <;> simp
  · rw [← balanced, topParts]
    cases topPieces sep source 0 <;> simp
  · intro parts h
    obtain ⟨ps, hp, rfl⟩ := topParts_eq_ok_iff.1 h
    have pieces : IsPieces sep source ps := (topPieces_eq_some_iff hs).1 hp
    refine ⟨ps, hp, rfl, pieces.glue_eq, fun p hm => ?_, length_topPieces hs hp⟩
    exact ⟨pieces.balanced p hm, pieces.outsideCount_eq_zero hs hm⟩

theorem topParts_cuts_arguments :
    let body := "str , dict[str, int],~T".toList
    ¬ IsBracket ',' ∧ Balanced body ∧
      topParts ',' body = .ok ["str".toList, "dict[str, int]".toList, "~T".toList] ∧
      ∃ ps, topPieces ',' body 0 = some ps ∧ glue ',' ps = body ∧ ps.length = 3 := by
  intro body
  have hs : ¬ IsBracket ',' := by decide
  have parts : topParts ',' body = .ok ["str".toList, "dict[str, int]".toList, "~T".toList] := rfl
  obtain ⟨succeeds, -, cuts⟩ := topParts_cuts hs body
  obtain ⟨ps, hp, -, hg, -, hn⟩ := cuts _ parts
  have two : outsideCount ',' body = 2 := by decide
  exact ⟨hs, succeeds.1 ⟨_, parts⟩, parts, ps, hp, hg, by rw [hn, two]⟩

end TypeRef

end TypeCatalog
