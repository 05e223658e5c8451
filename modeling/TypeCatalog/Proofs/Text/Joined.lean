import Mathlib.Data.List.Basic
import TypeCatalog.Proofs.Text.Brackets
import TypeCatalog.Proofs.Text.Pieces
import TypeCatalog.Proofs.Text.Trim

/-! # Text — pieces of texts that are put together

Where two texts are joined by a separator, the pieces are those of the one and then those of the
other.  Characters that are neither brackets nor separators go into the piece they are put beside:
in front of a text into its first piece, after it into its last.  Blanks do so as well, so the
trimmed pieces of a text are those of the trimmed text.

* `IsPieces.append`: pieces of a text joined by a separator.
* `IsPieces.after`, `IsPieces.before`: pieces of a text with more in front or behind.
* `IsPieces.map_trim_eq`: blanks at the ends change no trimmed piece.
-/

namespace TypeCatalog.Text

variable {sep c : Char} {cs xs ys front back p : List Char} {ps qs : List (List Char)}

/-! ### One way to cut -/

theorem IsPieces.unique (hs : ¬ IsBracket sep) (hp : IsPieces sep cs ps) (hq : IsPieces sep cs qs) :
    ps = qs :=
  Option.some.inj (((topPieces_eq_some_iff hs).2 hp).symm.trans ((topPieces_eq_some_iff hs).2 hq))

theorem exists_isPieces (hs : ¬ IsBracket sep) (h : Balanced cs) :
    ∃ p ps, IsPieces sep cs (p :: ps) := by
  have cuts : (topPieces sep cs 0).isSome := topPieces_isSome_iff.2 h
  obtain ⟨ps, hps⟩ := Option.isSome_iff_exists.1 cuts
  have pieces := (topPieces_eq_some_iff hs).1 hps
  obtain ⟨p, ps, rfl⟩ := List.exists_cons_of_ne_nil pieces.ne_nil
  exact ⟨p, ps, pieces⟩

theorem isPieces_whole (h : Balanced cs) (ho : ¬ Outside sep cs) : IsPieces sep cs [cs] where
  ne_nil := by simp
  glue_eq := rfl
  balanced p hp := List.mem_singleton.1 hp ▸ h
  inside p hp := List.mem_singleton.1 hp ▸ ho

/-! ### Joining -/

theorem IsPieces.append (hx : IsPieces sep xs ps) (hy : IsPieces sep ys qs) :
    IsPieces sep (xs ++ sep :: ys) (ps ++ qs) where
  ne_nil := List.append_ne_nil_of_left_ne_nil hx.ne_nil qs
  glue_eq := by rw [glue_append sep hx.ne_nil hy.ne_nil, hx.glue_eq, hy.glue_eq]
  balanced := List.forall_mem_append.2 ⟨hx.balanced, hy.balanced⟩
  inside := List.forall_mem_append.2 ⟨hx.inside, hy.inside⟩

/-- What is put in front of a text goes into the first piece. -/
theorem IsPieces.after (hb : ∀ c ∈ front, ¬ IsBracket c) (hs : sep ∉ front)
    (h : IsPieces sep cs (p :: ps)) : IsPieces sep (front ++ cs) ((front ++ p) :: ps) where
  ne_nil := by simp
  glue_eq := by
    rw [← h.glue_eq]
    cases ps <;> simp [glue]
  balanced := List.forall_mem_cons.2
    ⟨(balanced_of_forall hb).append (h.balanced p (by simp)),
      fun q hq => h.balanced q (List.mem_cons_of_mem _ hq)⟩
  inside := List.forall_mem_cons.2
    ⟨not_outside_append (balanced_of_forall hb) (not_outside_of_not_mem hs) (h.inside p (by simp)),
      fun q hq => h.inside q (List.mem_cons_of_mem _ hq)⟩

/-- What is put behind a text goes into the last piece. -/
theorem IsPieces.before (hb : ∀ c ∈ back, ¬ IsBracket c) (hs : sep ∉ back)
    (h : IsPieces sep cs (ps ++ [p])) : IsPieces sep (cs ++ back) (ps ++ [p ++ back]) where
  ne_nil := by simp
  glue_eq := by
    rw [← h.glue_eq]
    cases ps with
    | nil => rfl
    | cons q qs =>
        have hq := List.cons_ne_nil q qs
        rw [glue_concat sep _ hq, glue_concat sep _ hq, List.append_assoc, List.cons_append]
  balanced := List.forall_mem_append.2
    ⟨fun q hq => h.balanced q (List.mem_append_left _ hq), List.forall_mem_singleton.2
      ((h.balanced p (by simp)).append (balanced_of_forall hb))⟩
  inside := by
    have last : ¬ Outside sep (p ++ back) := not_outside_append (h.balanced p (by simp))
      (h.inside p (by simp)) (not_outside_of_not_mem hs)
    intro q hq
    rcases List.mem_append.1 hq with hq | hq
    · exact h.inside q (List.mem_append_left _ hq)
    · exact List.mem_singleton.1 hq ▸ last

/-- A character other than the separator stands outside brackets in no text that is glued from
pieces where it does not. -/
theorem not_outside_glue (hs : ¬ IsBracket sep) (hc : c ≠ sep) :
    ∀ {ps : List (List Char)}, (∀ p ∈ ps, Balanced p) → (∀ p ∈ ps, ¬ Outside c p) →
      ¬ Outside c (glue sep ps)
  | [],          _,  _  => not_outside_of_not_mem (by simp [glue])
  | [p],         _,  hi => hi p (by simp)
  | p :: q :: r, hb, hi => by
      have ih : ¬ Outside c (glue sep (q :: r)) :=
        not_outside_glue hs hc (fun a ha => hb a (List.mem_cons_of_mem _ ha))
          fun a ha => hi a (List.mem_cons_of_mem _ ha)
      have mark : Balanced [sep] ∧ ¬ Outside c [sep] :=
        ⟨balanced_of_forall (by simpa using hs), not_outside_of_not_mem (by simpa using hc)⟩
      exact not_outside_append (hb p (by simp)) (hi p (by simp))
        (not_outside_append mark.1 mark.2 ih)

/-! ### Blanks -/

theorem not_isBracket_of_isBlank (h : isBlank c = true) : ¬ IsBracket c := by
  rintro (rfl | rfl) <;> exact absurd h (by decide)

/-- What is balanced between texts without brackets is balanced. -/
theorem Balanced.of_between (hf : ∀ c ∈ front, ¬ IsBracket c) (hb : ∀ c ∈ back, ¬ IsBracket c)
    (h : Balanced (front ++ cs ++ back)) : Balanced cs := by
  have none : ∀ xs : List Char, (∀ c ∈ xs, ¬ IsBracket c) → xs.count '[' = 0 ∧ xs.count ']' = 0 :=
    fun xs hx => ⟨List.count_eq_zero.2 fun hm => hx _ hm (.inl rfl),
      List.count_eq_zero.2 fun hm => hx _ hm (.inr rfl)⟩
  obtain ⟨hfo, hfc⟩ := none front hf
  obtain ⟨hbo, hbc⟩ := none back hb
  refine ⟨fun p hp => ?_, ?_⟩
  · obtain ⟨t, rfl⟩ := hp
    have hp := h.1 (front ++ p) ⟨t ++ back, by simp⟩
    simpa only [List.count_append, hfo, hfc, Nat.zero_add] using hp
  · simpa only [List.count_append, hfo, hfc, hbo, hbc, Nat.zero_add, Nat.add_zero] using h.2

theorem balanced_of_isBlank (h : ∀ a ∈ cs, isBlank a = true) : Balanced cs :=
  balanced_of_forall fun a ha => not_isBracket_of_isBlank (h a ha)

theorem balanced_trim_iff : Balanced (trim cs) ↔ Balanced cs := by
  obtain ⟨front, back, hcs, hf, hb, -, -⟩ := exists_blanks cs
  constructor
  · intro h
    rw [hcs]
    exact ((balanced_of_isBlank hf).append h).append (balanced_of_isBlank hb)
  · intro h
    rw [hcs] at h
    exact h.of_between (fun c hc => not_isBracket_of_isBlank (hf c hc))
      fun c hc => not_isBracket_of_isBlank (hb c hc)

/-- A visible character stands outside brackets in no text that does not have it there trimmed. -/
theorem not_outside_of_trim (hc : isBlank c = false) (hb : Balanced (trim cs))
    (h : ¬ Outside c (trim cs)) : ¬ Outside c cs := by
  obtain ⟨front, back, hcs, hf, hk, -, -⟩ := exists_blanks cs
  have hfront := balanced_of_isBlank hf
  rw [hcs]
  exact not_outside_append (hfront.append hb)
    (not_outside_append hfront (not_outside_of_not_mem (not_mem_of_forall_isBlank hf hc)) h)
    (not_outside_of_not_mem (not_mem_of_forall_isBlank hk hc))

theorem IsPieces.afterBlanks (hf : ∀ a ∈ front, isBlank a = true) (hc : isBlank sep = false)
    (h : IsPieces sep cs ps) :
    ∃ qs, IsPieces sep (front ++ cs) qs ∧ qs.map trim = ps.map trim := by
  obtain ⟨p, ps, rfl⟩ := List.exists_cons_of_ne_nil h.ne_nil
  refine ⟨_, h.after (fun a ha => not_isBracket_of_isBlank (hf a ha))
    (not_mem_of_forall_isBlank hf hc), ?_⟩
  rw [List.map_cons, trim_blanks_append hf, List.map_cons]

theorem IsPieces.beforeBlanks (hk : ∀ a ∈ back, isBlank a = true) (hc : isBlank sep = false)
    (h : IsPieces sep cs ps) :
    ∃ qs, IsPieces sep (cs ++ back) qs ∧ qs.map trim = ps.map trim := by
  obtain ⟨ps, p, rfl⟩ := (List.eq_nil_or_concat' ps).resolve_left h.ne_nil
  refine ⟨_, h.before (fun a ha => not_isBracket_of_isBlank (hk a ha))
    (not_mem_of_forall_isBlank hk hc), ?_⟩
  simp [trim_append_blanks hk]

/-- **Blanks at the ends change no trimmed piece.** -/
theorem IsPieces.map_trim_eq (hs : ¬ IsBracket sep) (hc : isBlank sep = false)
    (h : IsPieces sep cs ps) (inner : IsPieces sep (trim cs) qs) : ps.map trim = qs.map trim := by
  obtain ⟨front, back, hcs, hf, hk, -, -⟩ := exists_blanks cs
  obtain ⟨ps', after, hafter⟩ := inner.afterBlanks hf hc
  obtain ⟨ps'', around, hbefore⟩ := after.beforeBlanks hk hc
  rw [← hcs] at around
  rw [h.unique hs around, hbefore, hafter]

end TypeCatalog.Text
