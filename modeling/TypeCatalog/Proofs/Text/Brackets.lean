import TypeCatalog.Text.Pieces

/-! # Text — brackets that balance

A text is balanced if no prefix of it closes more square brackets than it opens, and all that are
opened are closed.  A character stands outside brackets if what comes before it has closed as many
as it has opened.  Both are said by counting; the cutting of a text goes from character to character
instead and keeps the number of open brackets, so the facts are proved for a text that comes after
`depth` open brackets (`Closes`, `Meets`), which is what the induction needs.

* `topPieces_isSome_iff`: cutting succeeds exactly on balanced texts.
* `topPieces_eq_some_iff`: the pieces are those between the separators outside brackets.
* `Balanced.append`, `Balanced.group`: how balanced texts are put together.
-/

namespace TypeCatalog.Text

/-- A square bracket. -/
def IsBracket (c : Char) : Prop := c = '[' ∨ c = ']'

instance : DecidablePred IsBracket := fun c => inferInstanceAs (Decidable (c = '[' ∨ c = ']'))

/-- No prefix closes more brackets than it opens, and all that are opened are closed. -/
def Balanced (cs : List Char) : Prop :=
  (∀ p, p <+: cs → p.count ']' ≤ p.count '[') ∧ cs.count ']' = cs.count '['

/-- `sep` stands in the text outside brackets. -/
def Outside (sep : Char) (cs : List Char) : Prop :=
  ∃ p s, cs = p ++ sep :: s ∧ p.count ']' = p.count '['

/-- `ps` are the pieces of `cs` between the separators outside brackets. -/
structure IsPieces (sep : Char) (cs : List Char) (ps : List (List Char)) : Prop where
  ne_nil : ps ≠ []
  glue_eq : glue sep ps = cs
  balanced : ∀ p ∈ ps, Balanced p
  inside : ∀ p ∈ ps, ¬ Outside sep p

/-! ### After open brackets -/

/-- The text closes `depth` brackets that are open before it, and those it opens itself. -/
def Closes (depth : Nat) (cs : List Char) : Prop :=
  (∀ p, p <+: cs → p.count ']' ≤ p.count '[' + depth) ∧ cs.count ']' = cs.count '[' + depth

/-- `sep` stands in the text where no bracket is open, `depth` being open before the text. -/
def Meets (sep : Char) (depth : Nat) (cs : List Char) : Prop :=
  ∃ p s, cs = p ++ sep :: s ∧ p.count ']' = p.count '[' + depth

theorem meets_zero {sep : Char} {cs : List Char} : Meets sep 0 cs ↔ Outside sep cs := Iff.rfl

variable {sep c : Char} {d e : Nat} {cs xs ys : List Char} {ps : List (List Char)}

@[simp] theorem closes_nil : Closes d [] ↔ d = 0 := by
  simp [Closes, eq_comm]

/-- Going one character on changes the number of open brackets by what the character is. -/
theorem closes_cons :
    Closes d (c :: cs) ↔
      ((∀ p, p <+: cs → (c :: p).count ']' ≤ (c :: p).count '[' + d) ∧
        (c :: cs).count ']' = (c :: cs).count '[' + d) := by
  refine and_congr_left fun _ => ⟨fun h p hp => h _ (List.cons_prefix_cons.2 ⟨rfl, hp⟩), ?_⟩
  intro h p hp
  rcases List.prefix_cons_iff.1 hp with rfl | ⟨q, rfl, hq⟩
  · simp
  · exact h q hq

@[simp] theorem closes_open : Closes d ('[' :: cs) ↔ Closes (d + 1) cs := by
  rw [closes_cons]
  simp [Closes, Nat.add_right_comm, Nat.add_assoc]

@[simp] theorem closes_close : Closes (d + 1) (']' :: cs) ↔ Closes d cs := by
  rw [closes_cons]
  simp [Closes, ← Nat.add_assoc]

theorem not_closes_zero_close : ¬ Closes 0 (']' :: cs) := by
  intro h
  have := h.1 [']'] (by simp)
  simp at this

theorem closes_other (hc : ¬ IsBracket c) : Closes d (c :: cs) ↔ Closes d cs := by
  simp only [IsBracket, not_or] at hc
  rw [closes_cons]
  simp [Closes, hc.1, hc.2]

@[simp] theorem not_meets_nil : ¬ Meets sep d [] := by
  simp [Meets]

theorem meets_cons : Meets sep d (c :: cs) ↔
    (c = sep ∧ d = 0) ∨
      ∃ p s, cs = p ++ sep :: s ∧ (c :: p).count ']' = (c :: p).count '[' + d := by
  constructor
  · rintro ⟨p, s, h, hp⟩
    rcases List.cons_eq_append_iff.1 h with ⟨rfl, hs⟩ | ⟨q, rfl, rfl⟩
    · simp only [List.cons.injEq] at hs
      simp only [List.count_nil, Nat.zero_add] at hp
      exact .inl ⟨hs.1.symm, hp.symm⟩
    · exact .inr ⟨q, s, rfl, hp⟩
  · rintro (⟨rfl, rfl⟩ | ⟨p, s, rfl, hp⟩)
    · exact ⟨[], cs, rfl, by simp⟩
    · exact ⟨c :: p, s, rfl, hp⟩

theorem meets_open (hs : ¬ IsBracket sep) : Meets sep d ('[' :: cs) ↔ Meets sep (d + 1) cs := by
  simp only [IsBracket, not_or] at hs
  rw [meets_cons]
  simp [Meets, Ne.symm hs.1, Nat.add_right_comm, Nat.add_assoc]

theorem meets_close (hs : ¬ IsBracket sep) : Meets sep (d + 1) (']' :: cs) ↔ Meets sep d cs := by
  simp only [IsBracket, not_or] at hs
  rw [meets_cons]
  simp [Meets, Ne.symm hs.2, ← Nat.add_assoc]

theorem meets_other (hc : ¬ IsBracket c) :
    Meets sep d (c :: cs) ↔ (c = sep ∧ d = 0) ∨ Meets sep d cs := by
  simp only [IsBracket, not_or] at hc
  rw [meets_cons]
  simp [Meets, hc.1, hc.2]

/-- Induction on a text that closes the brackets open before it. -/
@[elab_as_elim]
theorem closes_induction {motive : ∀ (d : Nat) (cs : List Char), Closes d cs → Prop}
    (nil : motive 0 [] (closes_nil.2 rfl))
    (opening : ∀ d cs h, motive (d + 1) cs h → motive d ('[' :: cs) (closes_open.2 h))
    (closing : ∀ d cs h, motive d cs h → motive (d + 1) (']' :: cs) (closes_close.2 h))
    (other : ∀ d c cs (hc : ¬ IsBracket c) h, motive d cs h →
      motive d (c :: cs) ((closes_other hc).2 h)) :
    ∀ {d : Nat} {cs : List Char} (h : Closes d cs), motive d cs h
  | d, [], h => by
      obtain rfl := closes_nil.1 h
      exact nil
  | d, c :: cs, h => by
      have ih : ∀ {d : Nat} (h : Closes d cs), motive d cs h :=
        closes_induction nil opening closing other
      by_cases ho : c = '['
      · subst ho
        exact opening d cs _ (ih (closes_open.1 h))
      · by_cases hc : c = ']'
        · subst hc
          cases d with
          | zero => exact absurd h not_closes_zero_close
          | succ d => exact closing d cs _ (ih (closes_close.1 h))
        · have hb : ¬ IsBracket c := not_or.2 ⟨ho, hc⟩
          exact other d c cs hb _ (ih ((closes_other hb).1 h))

/-! ### Putting texts together -/

theorem Closes.append (hx : Closes d xs) (hy : Closes e ys) : Closes (d + e) (xs ++ ys) := by
  induction hx using closes_induction with
  | nil => simpa using hy
  | opening d cs _ ih => simpa [Nat.add_right_comm] using ih
  | closing d cs _ ih => simpa [Nat.add_right_comm] using ih
  | other d c cs hc _ ih => exact (closes_other hc).2 ih

theorem not_meets_append (hx : Closes d xs) (hmx : ¬ Meets sep (d + e) xs)
    (hmy : ¬ Meets sep e ys) : ¬ Meets sep (d + e) (xs ++ ys) := by
  rintro ⟨p, s, h, hp⟩
  rcases List.append_eq_append_iff.1 h with ⟨q, rfl, rfl⟩ | ⟨q, rfl, hq⟩
  · -- the separator stands in `ys`, where `xs` has closed what was open before it
    refine hmy ⟨q, s, rfl, ?_⟩
    have hxs := hx.2
    simp only [List.count_append] at hp
    omega
  · -- it is the first character of `ys`, or stands in `xs`
    rcases List.cons_eq_append_iff.1 hq with ⟨rfl, rfl⟩ | ⟨t, rfl, -⟩
    · refine hmy ⟨[], s, rfl, ?_⟩
      have hxs := hx.2
      simp only [List.append_nil] at hxs
      simp only [List.count_nil]
      omega
    · exact hmx ⟨p, t, rfl, hp⟩

/-- A balanced text after an open bracket meets nothing outside brackets. -/
theorem Balanced.not_meets_succ (h : Balanced cs) : ¬ Meets sep (d + 1) cs := by
  rintro ⟨p, s, rfl, hp⟩
  have := h.1 p (List.prefix_append p _)
  omega

theorem Balanced.append (hx : Balanced xs) (hy : Balanced ys) : Balanced (xs ++ ys) :=
  Closes.append (d := 0) (e := 0) hx hy

theorem Balanced.group (h : Balanced cs) : Balanced ('[' :: (cs ++ [']'])) := by
  have close : Closes 1 [']'] := closes_close.2 (closes_nil.2 rfl)
  exact closes_open.2 (Closes.append (d := 0) h close)

/-- A text without brackets is balanced. -/
theorem balanced_of_forall (h : ∀ c ∈ cs, ¬ IsBracket c) : Balanced cs := by
  have none : ∀ p ⊆ cs, p.count '[' = 0 ∧ p.count ']' = 0 := fun p hp =>
    ⟨List.count_eq_zero.2 fun hm => h _ (hp hm) (.inl rfl),
      List.count_eq_zero.2 fun hm => h _ (hp hm) (.inr rfl)⟩
  refine ⟨fun p hp => ?_, ?_⟩
  · obtain ⟨-, hc⟩ := none p hp.subset
    omega
  · obtain ⟨ho, hc⟩ := none cs (List.Subset.refl cs)
    omega

theorem not_outside_of_not_mem (h : sep ∉ cs) : ¬ Outside sep cs := by
  rintro ⟨p, s, rfl, -⟩
  simp at h

theorem not_outside_append (hx : Balanced xs) (hox : ¬ Outside sep xs) (hoy : ¬ Outside sep ys) :
    ¬ Outside sep (xs ++ ys) :=
  not_meets_append (d := 0) (e := 0) hx hox hoy

theorem not_outside_group (hs : ¬ IsBracket sep) (h : Balanced cs) :
    ¬ Outside sep ('[' :: (cs ++ [']'])) := by
  have close : ¬ Meets sep 1 [']'] := by
    rw [meets_close hs]
    exact not_meets_nil
  rw [← meets_zero, meets_open hs]
  exact not_meets_append (d := 0) (e := 1) h h.not_meets_succ close

/-! ### Cutting -/

/-- Puts `p` in front of the first piece. -/
def growBy (p : List Char) (ps : List (List Char)) : List (List Char) := p.foldr growFirst ps

theorem growBy_cons (c : Char) (p : List Char) : growBy (c :: p) = growFirst c ∘ growBy p := rfl

theorem growBy_piece (p q : List Char) : growBy p (q :: ps) = (p ++ q) :: ps := by
  induction p with
  | nil => rfl
  | cons c p ih =>
      rw [growBy_cons, Function.comp_apply, ih]
      rfl

/-- Up to where the last open bracket closes, a text without separators outside brackets is not
cut. -/
theorem topPieces_append (hs : ¬ IsBracket sep) (hx : Closes d xs) (hm : ¬ Meets sep d xs)
    (rest : List Char) :
    topPieces sep (xs ++ rest) d = (topPieces sep rest 0).map (growBy xs) := by
  induction hx using closes_induction with
  | nil =>
      have : growBy [] = id := rfl
      rw [List.nil_append, this, Option.map_id_apply]
  | opening d cs _ ih =>
      rw [meets_open hs] at hm
      rw [List.cons_append, topPieces, if_pos rfl, ih hm, Option.map_map, growBy_cons]
  | closing d cs _ ih =>
      rw [meets_close hs] at hm
      rw [List.cons_append, topPieces, if_neg (by decide), if_pos rfl, if_neg (by omega),
        Nat.add_sub_cancel, ih hm, Option.map_map, growBy_cons]
  | other d c cs hc _ ih =>
      rw [meets_other hc, not_or] at hm
      simp only [IsBracket, not_or] at hc
      rw [List.cons_append, topPieces, if_neg hc.1, if_neg hc.2, if_neg hm.1, ih hm.2,
        Option.map_map, growBy_cons]

/-- Cutting succeeds exactly on the texts that close the brackets open before them. -/
theorem topPieces_isSome_iff_closes (sep : Char) :
    ∀ (cs : List Char) (d : Nat), (topPieces sep cs d).isSome ↔ Closes d cs
  | [], d => by
      unfold topPieces
      by_cases hd : d = 0 <;> simp [hd]
  | c :: cs, d => by
      have ih := topPieces_isSome_iff_closes sep cs
      unfold topPieces
      split
      · rename_i ho
        subst ho
        simp [ih]
      · rename_i ho
        split
        · rename_i hc
          subst hc
          cases d with
          | zero => simp [not_closes_zero_close]
          | succ d => simp [ih]
        · rename_i hc
          rw [closes_other (not_or.2 ⟨ho, hc⟩)]
          split
          · rename_i hs
            rw [Option.isSome_map, ih, hs.2]
          · simp [ih]

/-- **Cutting succeeds exactly on balanced texts.** -/
theorem topPieces_isSome_iff : (topPieces sep cs 0).isSome ↔ Balanced cs :=
  topPieces_isSome_iff_closes sep cs 0

/-- What cutting gives: the first piece closes the brackets open before the text, the others are
balanced, and none has a separator outside brackets. -/
theorem closes_of_topPieces (hs : ¬ IsBracket sep) :
    ∀ {cs : List Char} {d : Nat} {ps : List (List Char)}, topPieces sep cs d = some ps →
      ∃ p qs, ps = p :: qs ∧ Closes d p ∧ ¬ Meets sep d p ∧
        ∀ q ∈ qs, Balanced q ∧ ¬ Outside sep q
  | [], d, ps, h => by
      unfold topPieces at h
      split at h
      · rename_i hd
        obtain rfl := Option.some.inj h
        exact ⟨[], [], rfl, closes_nil.2 hd, not_meets_nil, by simp⟩
      · cases h
  | c :: cs, d, ps, h => by
      unfold topPieces at h
      split at h
      · rename_i ho
        subst ho
        obtain ⟨ps', h', rfl⟩ := Option.map_eq_some_iff.1 h
        obtain ⟨p, qs, rfl, hp, hm, hqs⟩ := closes_of_topPieces hs h'
        exact ⟨'[' :: p, qs, rfl, closes_open.2 hp, by rwa [meets_open hs], hqs⟩
      · rename_i ho
        split at h
        · rename_i hc
          subst hc
          cases d with
          | zero => cases h
          | succ d =>
              obtain ⟨ps', h', rfl⟩ := Option.map_eq_some_iff.1 h
              obtain ⟨p, qs, rfl, hp, hm, hqs⟩ := closes_of_topPieces hs h'
              exact ⟨']' :: p, qs, rfl, closes_close.2 hp, by rwa [meets_close hs], hqs⟩
        · rename_i hc
          have hb : ¬ IsBracket c := not_or.2 ⟨ho, hc⟩
          split at h
          · -- a separator outside brackets: the first piece ends here
            rename_i hsep
            obtain ⟨ps', h', rfl⟩ := Option.map_eq_some_iff.1 h
            obtain ⟨p, qs, rfl, hp, hm, hqs⟩ := closes_of_topPieces hs h'
            refine ⟨[], p :: qs, rfl, closes_nil.2 hsep.2, not_meets_nil, fun q hq => ?_⟩
            rcases List.mem_cons.1 hq with rfl | hq
            · exact ⟨hp, hm⟩
            · exact hqs q hq
          · rename_i hsep
            obtain ⟨ps', h', rfl⟩ := Option.map_eq_some_iff.1 h
            obtain ⟨p, qs, rfl, hp, hm, hqs⟩ := closes_of_topPieces hs h'
            refine ⟨c :: p, qs, rfl, (closes_other hb).2 hp, ?_, hqs⟩
            rw [meets_other hb, not_or]
            exact ⟨hsep, hm⟩

/-- Cutting a balanced text that has no separator outside brackets leaves it whole. -/
theorem topPieces_whole (hs : ¬ IsBracket sep) (h : Balanced cs) (ho : ¬ Outside sep cs) :
    topPieces sep cs 0 = some [cs] := by
  have hc : Closes 0 cs := h
  have whole := topPieces_append hs hc ho []
  rw [List.append_nil, topPieces, if_pos rfl, Option.map_some, growBy_piece] at whole
  rwa [List.append_nil] at whole

/-- Cutting undoes gluing. -/
theorem topPieces_glue (hs : ¬ IsBracket sep) :
    ∀ {ps : List (List Char)}, ps ≠ [] → (∀ p ∈ ps, Balanced p) → (∀ p ∈ ps, ¬ Outside sep p) →
      topPieces sep (glue sep ps) 0 = some ps
  | [],          h, _,  _  => absurd rfl h
  | [p],         _, hb, hi => topPieces_whole hs (hb p (by simp)) (hi p (by simp))
  | p :: q :: r, _, hb, hi => by
      -- the first piece runs up to the first separator outside brackets
      have hp : Closes 0 p := hb p List.mem_cons_self
      have hm : ¬ Meets sep 0 p := hi p List.mem_cons_self
      have ih : topPieces sep (glue sep (q :: r)) 0 = some (q :: r) :=
        topPieces_glue hs (by simp) (fun a ha => hb a (List.mem_cons_of_mem _ ha))
          fun a ha => hi a (List.mem_cons_of_mem _ ha)
      have hc : sep ≠ '[' ∧ sep ≠ ']' := not_or.1 hs
      rw [glue, topPieces_append hs hp hm, topPieces, if_neg hc.1, if_neg hc.2, if_pos ⟨rfl, rfl⟩,
        ih, Option.map_some, Option.map_some, growBy_piece, List.append_nil]

/-- **The pieces of a text** are those between its separators outside brackets. -/
theorem topPieces_eq_some_iff (hs : ¬ IsBracket sep) :
    topPieces sep cs 0 = some ps ↔ IsPieces sep cs ps := by
  constructor
  · intro h
    obtain ⟨p, qs, rfl, hp, hm, hqs⟩ := closes_of_topPieces hs h
    refine ⟨by simp, glue_topPieces h, fun q hq => ?_, fun q hq => ?_⟩
    · rcases List.mem_cons.1 hq with rfl | hq
      · exact hp
      · exact (hqs q hq).1
    · rcases List.mem_cons.1 hq with rfl | hq
      · exact hm
      · exact (hqs q hq).2
  · rintro ⟨hne, rfl, hb, hi⟩
    exact topPieces_glue hs hne hb hi

/-- A text that is cut into pieces is balanced. -/
theorem IsPieces.balanced_whole (hs : ¬ IsBracket sep) (h : IsPieces sep cs ps) : Balanced cs := by
  rw [← @topPieces_isSome_iff sep, (topPieces_eq_some_iff hs).2 h]
  rfl

/-- A text that does not start with a separator starts with its first piece. -/
theorem IsPieces.head?_eq {c : Char} {p : List Char} (h : IsPieces sep cs (p :: ps))
    (hc : cs.head? = some c) (hs : c ≠ sep) : p.head? = some c := by
  have hg := h.glue_eq
  cases p with
  | cons a as => cases ps <;> (rw [← hg] at hc; exact hc)
  | nil =>
      cases ps with
      | nil =>
          rw [← hg] at hc
          cases hc
      | cons q qs =>
          rw [← hg] at hc
          exact absurd (Option.some.inj hc).symm hs

end TypeCatalog.Text
