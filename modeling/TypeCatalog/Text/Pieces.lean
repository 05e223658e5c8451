/-! # Text — pieces between separators

`pieces sep` cuts a text at every separator, `topPieces sep` only at the separators that stand
outside square brackets; the second refuses a text whose brackets do not balance.  `glue` puts
pieces back together.

* `glue_pieces`, `glue_topPieces`: nothing is lost by cutting.
* `length_lt_of_mem_topPieces`: where a separator was found, every piece is shorter than the text.
-/

namespace TypeCatalog.Text

/-- Puts `c` in front of the first piece. -/
def growFirst (c : Char) : List (List Char) → List (List Char)
  | []      => [[c]]
  | p :: ps => (c :: p) :: ps

/-- The pieces between the separators: one more than there are separators. -/
def pieces (sep : Char) : List Char → List (List Char)
  | []      => [[]]
  | c :: cs => if c = sep then [] :: pieces sep cs else growFirst c (pieces sep cs)

/-- The pieces between the separators outside brackets, `depth` brackets being open before the
text; `none` if a bracket closes that was not opened or stays open. -/
def topPieces (sep : Char) : List Char → (depth : Nat) → Option (List (List Char))
  | [],      depth => if depth = 0 then some [[]] else none
  | c :: cs, depth =>
      if c = '[' then (topPieces sep cs (depth + 1)).map (growFirst c)
      else if c = ']' then
        if depth = 0 then none else (topPieces sep cs (depth - 1)).map (growFirst c)
      else if c = sep ∧ depth = 0 then (topPieces sep cs 0).map ([] :: ·)
      else (topPieces sep cs depth).map (growFirst c)

/-- The pieces with a separator between each two. -/
def glue (sep : Char) : List (List Char) → List Char
  | []           => []
  | [p]          => p
  | p :: q :: ps => p ++ sep :: glue sep (q :: ps)

/-! ### Cutting and gluing -/

theorem growFirst_ne_nil (c : Char) (ps : List (List Char)) : growFirst c ps ≠ [] := by
  cases ps <;> simp [growFirst]

theorem pieces_ne_nil (sep : Char) : ∀ cs, pieces sep cs ≠ []
  | []      => by simp [pieces]
  | c :: cs => by
      unfold pieces
      split
      · simp
      · exact growFirst_ne_nil _ _

theorem glue_growFirst (sep c : Char) {ps : List (List Char)} (h : ps ≠ []) :
    glue sep (growFirst c ps) = c :: glue sep ps := by
  match ps, h with
  | [p],         _ => rfl
  | p :: q :: r, _ => rfl

theorem glue_nil_cons (sep : Char) {ps : List (List Char)} (h : ps ≠ []) :
    glue sep ([] :: ps) = sep :: glue sep ps := by
  match ps, h with
  | p :: r, _ => rfl

/-- Cutting loses nothing. -/
theorem glue_pieces (sep : Char) : ∀ cs, glue sep (pieces sep cs) = cs
  | []      => rfl
  | c :: cs => by
      unfold pieces
      split
      · rename_i h
        rw [glue_nil_cons sep (pieces_ne_nil sep cs), glue_pieces sep cs, h]
      · rw [glue_growFirst sep c (pieces_ne_nil sep cs), glue_pieces sep cs]

/-- A text is cut at the first separator. -/
theorem pieces_append {sep : Char} {front : List Char} (back : List Char) (h : sep ∉ front) :
    pieces sep (front ++ sep :: back) = front :: pieces sep back := by
  induction front with
  | nil => simp [pieces]
  | cons c front ih =>
      rw [List.mem_cons, not_or] at h
      rw [List.cons_append, pieces, if_neg (Ne.symm h.1), ih h.2]
      rfl

/-- Cutting outside brackets gives at least one piece and loses nothing. -/
theorem topPieces_spec (sep : Char) : ∀ (cs : List Char) (depth : Nat) {ps : List (List Char)},
    topPieces sep cs depth = some ps → ps ≠ [] ∧ glue sep ps = cs
  | [],      depth, ps, h => by
      unfold topPieces at h
      split at h
      · obtain rfl := Option.some.inj h
        exact ⟨by simp, rfl⟩
      · simp at h
  | c :: cs, depth, ps, h => by
      have grown : ∀ d, (topPieces sep cs d).map (growFirst c) = some ps →
          ps ≠ [] ∧ glue sep ps = c :: cs := by
        intro d hd
        obtain ⟨qs, hq, rfl⟩ := Option.map_eq_some_iff.1 hd
        obtain ⟨hne, hg⟩ := topPieces_spec sep cs d hq
        exact ⟨growFirst_ne_nil _ _, by rw [glue_growFirst sep c hne, hg]⟩
      unfold topPieces at h
      split at h
      · exact grown _ h
      · split at h
        · split at h
          · simp at h
          · exact grown _ h
        · split at h
          · rename_i hsep
            obtain ⟨qs, hq, rfl⟩ := Option.map_eq_some_iff.1 h
            obtain ⟨hne, hg⟩ := topPieces_spec sep cs 0 hq
            exact ⟨by simp, by rw [glue_nil_cons sep hne, hg, hsep.1]⟩
          · exact grown _ h

theorem glue_topPieces {sep : Char} {cs : List Char} {ps : List (List Char)}
    (h : topPieces sep cs 0 = some ps) : glue sep ps = cs :=
  (topPieces_spec sep cs 0 h).2

/-! ### Lengths -/

theorem length_le_glue (sep : Char) : ∀ {ps : List (List Char)} {p : List Char},
    p ∈ ps → p.length ≤ (glue sep ps).length
  | [],          _, h => absurd h (by simp)
  | [q],         p, h => by simp_all [glue]
  | q :: r :: s, p, h => by
      rcases List.mem_cons.1 h with rfl | h
      · simp [glue]
      · have := length_le_glue sep h
        simp only [glue, List.length_append, List.length_cons]
        omega

theorem length_lt_glue (sep : Char) {p q : List Char} {ps : List (List Char)} {r : List Char}
    (h : r ∈ p :: q :: ps) : r.length < (glue sep (p :: q :: ps)).length := by
  rcases List.mem_cons.1 h with rfl | h
  · simp only [glue, List.length_append, List.length_cons]
    omega
  · have := length_le_glue sep h
    simp only [glue, List.length_append, List.length_cons]
    omega

theorem length_le_of_mem_topPieces {sep : Char} {cs p : List Char} {ps : List (List Char)}
    (h : topPieces sep cs 0 = some ps) (hp : p ∈ ps) : p.length ≤ cs.length := by
  rw [← glue_topPieces h]
  exact length_le_glue sep hp

theorem length_lt_of_mem_topPieces {sep : Char} {cs p q r : List Char} {ps : List (List Char)}
    (h : topPieces sep cs 0 = some (p :: q :: ps)) (hr : r ∈ p :: q :: ps) :
    r.length < cs.length := by
  rw [← glue_topPieces h]
  exact length_lt_glue sep hr

end TypeCatalog.Text
