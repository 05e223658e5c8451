import TypeCatalog.Proofs.TypeRef.Inside

/-! # Type references — references that may be `None`

`Optional[R]`, `R | None` and `None | R` are written for a reference `R` that may be `None`, and are
read as `R`.  The first is read so whatever `R` is.  The other two are read so unless `R` is a type
variable: a tilde in front is looked at before the bars, and takes everything after it.

With `| None` after it, a type variable has the bar in its name, where it is refused, or in its
bound, where it is one more member.  So it comes down to the text inside all the bounds, which must
be neither a type variable nor `None`.  With `None |` before it, a type variable is a member of a
union and ends at the first bar.  So the text inside all the bounds must have no member but `None`
after its first bar.

* `denotes_members_iff`: what a union stands for, and a text without a bar.
* `Denotes.variable_induction`: induction on how type variables bound one another.
* `denotes_orNone_iff`, `denotes_noneOr_iff`: what a text with `None` after or before it stands for.
* `ofText_optional_iff`: the same for what is read, together with `Optional`.
-/

namespace TypeCatalog.TypeRef

open Text

variable {text : List Char} {r s : TypeRef} {ps : List (List Char)}

/-- `text` is written as a type variable. -/
def IsVariable (text : List Char) : Prop := (trim text).head? = some '~'

instance : DecidablePred IsVariable := fun text =>
  inferInstanceAs (Decidable ((trim text).head? = some '~'))

/-! ### Members -/

/-- The members of a union that are not `None`, trimmed. -/
def others (ps : List (List Char)) : List (List Char) := (ps.map trim).filter (· != noneWord)

theorem others_nil : others [] = [] := rfl

theorem others_cons_of_none {p : List Char} (h : trim p = noneWord) :
    others (p :: ps) = others ps := by
  simp [others, h]

theorem others_cons_of_some {p : List Char} (h : trim p ≠ noneWord) :
    others (p :: ps) = trim p :: others ps := by
  simp [others, h]

theorem others_append (ps qs : List (List Char)) : others (ps ++ qs) = others ps ++ others qs := by
  simp [others]

theorem others_eq_nil_iff : others ps = [] ↔ ∀ p ∈ ps, trim p = noneWord := by
  simp [others]

theorem others_of_map_trim {qs : List (List Char)} (h : ps.map trim = qs.map trim) :
    others ps = others qs := by
  rw [others, others, h]

theorem unionProduction_eq_ok_iff {members : List (List Char)} {p : Production} :
    unionProduction text members = .ok p ↔
      ∃ m, members.filter (· != noneWord) = [m] ∧ p = .around .same m := by
  unfold unionProduction
  have word : "None".toList = noneWord := rfl
  rw [word]
  split
  · rename_i m hm
    rw [hm, Except.ok.injEq]
    simp [eq_comm]
  · rename_i hm
    refine iff_of_false (fun h => ?_) fun ⟨m, h, _⟩ => hm m h
    cases h

theorem ne_noneWord_of_bar (h : '|' ∈ text) : trim text ≠ noneWord := by
  intro ht
  have hm := mem_trim h (by decide)
  rw [ht] at hm
  exact absurd hm (by decide)

/-- **A union stands for its one member that is not `None`**, if there is just one; so does a text
without a bar, whose one member is the text. -/
theorem denotes_members_iff (pieces : IsPieces '|' text ps) (visible : trim text ≠ [])
    (hv : ¬ IsVariable text) (some : trim text ≠ noneWord) :
    Denotes text r ↔ ∃ m, others ps = [m] ∧ Denotes m r := by
  have bar : ¬ IsBracket '|' := by decide
  have balanced : Balanced (trim text) := balanced_trim_iff.2 (pieces.balanced_whole bar)
  have plain : Plain text (trim text) := ⟨rfl, visible, hv, balanced⟩
  obtain ⟨q, qs, inner⟩ := exists_isPieces bar balanced
  rw [others_of_map_trim (pieces.map_trim_eq bar (by decide) inner)]
  -- only a text with a bar is read as a union
  cases qs with
  | nil =>
      obtain rfl : q = trim text := inner.glue_eq
      rw [others_cons_of_some (by rwa [trim_trim]), trim_trim, others_nil]
      simp [denotes_trim]
  | cons q' qs =>
      have union : production text = unionProduction text ((q :: q' :: qs).map trim) := by
        rw [production_of_plain plain, plainProduction, (topPieces_eq_some_iff bar).2 inner]
      constructor
      · intro hr
        obtain ⟨p, hp⟩ := exists_written hr
        obtain ⟨m, hm, rfl⟩ := unionProduction_eq_ok_iff.1 (union ▸ production_eq_ok_iff.2 hp)
        obtain ⟨s, hs, rfl⟩ := (denotes_around_iff hp).1 hr
        exact ⟨m, hm, hs⟩
      · rintro ⟨m, hm, hs⟩
        have read := union.trans (unionProduction_eq_ok_iff.2 ⟨m, hm, rfl⟩)
        exact (denotes_around_iff (production_eq_ok_iff.1 read)).2 ⟨r, hs, rfl⟩

/-! ### `None` beside a text -/

theorem isPieces_none {word : List Char} (h : word ∈ ["None ".toList, " None".toList]) :
    IsPieces '|' word [word] ∧ trim word = noneWord := by
  have plain : Balanced word ∧ '|' ∉ word ∧ trim word = noneWord := by
    simp only [List.mem_cons, List.not_mem_nil, or_false] at h
    rcases h with rfl | rfl <;> exact ⟨balanced_of_forall (by simp [IsBracket]), by decide⟩
  exact ⟨isPieces_whole plain.1 (not_outside_of_not_mem plain.2.1), plain.2.2⟩

/-- `None` before a text is one more member. -/
theorem denotes_noneOr_members_iff (pieces : IsPieces '|' text ps) :
    Denotes ("None | ".toList ++ text) r ↔ ∃ m, others ps = [m] ∧ Denotes m r := by
  have blank : ∀ c ∈ [' '], isBlank c = true := List.forall_mem_singleton.2 (by decide)
  obtain ⟨qs, after, he⟩ := pieces.afterBlanks blank (by decide)
  obtain ⟨word, hw⟩ := isPieces_none (by simp : "None ".toList ∈ _)
  have whole := word.append after
  have source : "None ".toList ++ '|' :: ([' '] ++ text) = "None | ".toList ++ text := by simp
  have front : trim "None | ".toList ≠ [] := by decide
  have head := head?_trim_append front text
  rw [source] at whole
  rw [denotes_members_iff whole (fun h => ?_) (fun h => ?_) (ne_noneWord_of_bar (by simp)),
    List.singleton_append, others_cons_of_none hw, others_of_map_trim he]
  · rw [h] at head
    exact absurd head (by decide)
  · exact absurd (head.symm.trans h) (by decide)

/-- `None` after a text that is no type variable is one more member. -/
theorem denotes_orNone_members_iff (pieces : IsPieces '|' text ps) (visible : trim text ≠ [])
    (hv : ¬ IsVariable text) :
    Denotes (text ++ " | None".toList) r ↔ ∃ m, others ps = [m] ∧ Denotes m r := by
  have blank : ∀ c ∈ [' '], isBlank c = true := List.forall_mem_singleton.2 (by decide)
  obtain ⟨qs, before, he⟩ := pieces.beforeBlanks blank (by decide)
  obtain ⟨word, hw⟩ := isPieces_none (by simp : " None".toList ∈ _)
  have whole := before.append word
  have source : text ++ [' '] ++ '|' :: " None".toList = text ++ " | None".toList := by simp
  have head := head?_trim_append visible " | None".toList
  rw [source] at whole
  rw [denotes_members_iff whole (fun h => ?_) (fun h => hv (head.symm.trans h))
      (ne_noneWord_of_bar (by simp)),
    others_append, others_of_map_trim he, others_cons_of_none hw, others_nil, List.append_nil]
  rw [h] at head
  exact visible (List.head?_eq_none_iff.1 head.symm)

/-! ### Type variables inside one another -/

/-- The text inside all the bounds: what comes after the colons of type variables that bound one
another. -/
def innermost (text : List Char) : List Char :=
  if IsVariable text then
    match _h : text.dropWhile (· != ':') with
    | []         => text
    | _ :: bound => innermost bound
  else text
termination_by text.length
decreasing_by
  have hle := length_dropWhile_le (· != ':') text
  rw [_h, List.length_cons] at hle
  omega

theorem innermost_of_not_variable (h : ¬ IsVariable text) : innermost text = text := by
  rw [innermost, if_neg h]

theorem innermost_of_not_mem (h : ':' ∉ text) : innermost text = text := by
  obtain ⟨-, hd⟩ := takeWhile_of_not_mem h
  unfold innermost
  split
  · split
    · rfl
    · rename_i hc
      rw [hd] at hc
      cases hc
  · rfl

theorem isVariable_of_trim {body : List Char} (h : trim text = '~' :: body) : IsVariable text :=
  congrArg List.head? h

/-- A visible character that is not in the name of a type variable is not in its text. -/
theorem not_mem_of_tilde {body : List Char} {c : Char} (h : trim text = '~' :: body)
    (hc : c ∉ body) (visible : isBlank c = false) (hne : c ≠ '~') : c ∉ text := by
  intro hm
  have inside := mem_trim hm visible
  rw [h] at inside
  exact (List.mem_cons.1 inside).elim hne hc

theorem not_isVariable_of_plain {source : List Char} (h : Plain text source) :
    ¬ IsVariable text := by
  rw [IsVariable, h.trim_eq]
  exact h.head_ne

theorem not_isVariable_of_subscript {base : String} {args : List (List Char)}
    (h : Subscript text base args) : ¬ IsVariable text := by
  cases h with
  | mk single _ _ _ _ => exact not_isVariable_of_plain single.toPlain

/-- Induction on how type variables bound one another. -/
@[elab_as_elim]
theorem Denotes.variable_induction {motive : ∀ text r, Denotes text r → Prop}
    (plain : ∀ text r (_ : ¬ IsVariable text) (h : Denotes text r), motive text r h)
    (unbounded : ∀ text name (tilde : trim text = '~' :: name) (first : ':' ∉ name)
      (identifier : isIdentifier (trim name) = true),
      motive text _ (.leaf (.unbounded tilde first identifier)))
    (bounded : ∀ name binder text r (hb : IsBinder name binder) (h : Denotes text r),
      motive text r h → motive (binder ++ text) _ ((denotes_bounded_iff hb).2 ⟨r, h, rfl⟩))
    (h : Denotes text r) : motive text r h := by
  -- the blanks behind a bound are no part of it, so the induction is on texts up to blanks
  suffices all : ∀ other (ht : trim text = trim other), motive other r (h.congr ht) from
    all text rfl
  induction h with
  | @leaf text r h =>
      intro other ht
      have apart : ¬ IsVariable text → motive other r (.congr ht (.leaf h)) := fun hv =>
        plain other r (by rwa [IsVariable, ← ht]) _
      cases h with
      | unbounded tilde first identifier =>
          exact unbounded other _ (ht.symm.trans tilde) first identifier
      | dropped subscript _ _ _ => exact apart (not_isVariable_of_subscript subscript)
      | primitive single => exact apart (not_isVariable_of_plain single.toPlain)
      | name single _ _ => exact apart (not_isVariable_of_plain single.toPlain)
  | @around text inner w r h hr ih =>
      intro other ht
      have apart : ¬ IsVariable text → motive other _ (.congr ht (.around h hr)) := fun hv =>
        plain other _ (by rwa [IsVariable, ← ht]) _
      cases h with
      | @bounded name _ tilde first identifier visible =>
          obtain ⟨front, back, source, blank, hb, -, -⟩ := exists_blanks other
          have same := trim_append_blanks hb inner
          have split : other = front ++ '~' :: (name ++ [':']) ++ (inner ++ back) := by
            rw [← ht, tilde] at source
            rw [source]
            simp
          subst split
          exact bounded _ _ _ _ (.mk blank first identifier) (hr.congr same.symm) (ih _ same.symm)
      | union plain _ _ _ _ => exact apart (not_isVariable_of_plain plain)
      | optional subscript _ => exact apart (not_isVariable_of_subscript subscript)
      | array subscript _ => exact apart (not_isVariable_of_subscript subscript)
      | tuple subscript _ _ => exact apart (not_isVariable_of_subscript subscript)

/-! ### Binders -/

section

variable {name : String} {binder : List Char}

theorem isVariable_binder (h : IsBinder name binder) (text : List Char) :
    IsVariable (binder ++ text) := by
  cases h with
  | mk blank _ _ => exact isVariable_of_trim (trim_bounded blank _ text)

theorem colon_mem_binder (h : IsBinder name binder) : ':' ∈ binder := by
  cases h with
  | mk => simp

theorem innermost_binder (h : IsBinder name binder) (text : List Char) :
    innermost (binder ++ text) = innermost text := by
  have hv := isVariable_binder h text
  cases h with
  | @mk front name blank first _ =>
      have before : ':' ∉ front ++ '~' :: name := by
        have apart := not_mem_of_forall_isBlank blank (by decide : isBlank ':' = false)
        simp [apart, first]
      have split : front ++ '~' :: (name ++ [':']) ++ text
          = (front ++ '~' :: name) ++ ':' :: text := by simp
      have hd := (takeWhile_of_first text before).2
      rw [split] at hv ⊢
      rw [innermost, if_pos hv]
      split
      · rename_i hc
        rw [hd] at hc
        cases hc
      · rename_i hc
        rw [hd] at hc
        cases hc
        rfl

/-- A binder holds no bracket and no bar. -/
theorem not_mem_binder {c : Char} (h : IsBinder name binder) (hc : c ∈ ['[', ']', '|']) :
    c ∉ binder := by
  have other : isBlank c = false ∧ c ≠ '~' ∧ c ≠ ':' ∧ c ∈ delimiters := by
    simp only [List.mem_cons, List.not_mem_nil, or_false] at hc
    rcases hc with rfl | rfl | rfl <;> decide
  obtain ⟨visible, tilde, colon, delimiter⟩ := other
  cases h with
  | @mk front name blank _ identifier =>
      have hf := not_mem_of_forall_isBlank blank visible
      have hn : c ∉ name := fun hm =>
        (isName_of_isIdentifier identifier).not_mem delimiter (mem_trim hm visible)
      simp [hf, hn, tilde, colon]

/-- A binder goes into the first member. -/
theorem isPieces_binder {p : List Char} (h : IsBinder name binder)
    (pieces : IsPieces '|' text (p :: ps)) :
    IsPieces '|' (binder ++ text) ((binder ++ p) :: ps) := by
  refine pieces.after (fun c hm hb => ?_) (not_mem_binder h (by simp))
  rcases hb with rfl | rfl
  · exact not_mem_binder h (by simp) hm
  · exact not_mem_binder h (by simp) hm

end

/-! ### `None` after a text -/

theorem denotes_iff_eq (h : Denotes text r) : Denotes text s ↔ s = r :=
  ⟨fun hs => hs.unique h, fun he => he ▸ h⟩

theorem isPieces_of_denotes (h : Denotes text r) (bar : '|' ∉ text) : IsPieces '|' text [text] :=
  isPieces_whole (isArgument_of_denotes h).balanced (not_outside_of_not_mem bar)

theorem exists_isPieces_of_denotes (h : Denotes text r) : ∃ p ps, IsPieces '|' text (p :: ps) :=
  exists_isPieces (by decide) (isArgument_of_denotes h).balanced

/-- A text that is no type variable has just one member that is not `None`, unless it is `None`. -/
theorem members_iff_of_plain (h : Denotes text r) (hv : ¬ IsVariable text)
    (pieces : IsPieces '|' text ps) :
    (∃ m, others ps = [m] ∧ Denotes m s) ↔ s = r ∧ trim text ≠ noneWord := by
  by_cases hn : trim text = noneWord
  · -- `None` alone is a text without a bar, so it is the only member
    have bar : '|' ∉ text := fun hm => ne_noneWord_of_bar hm hn
    obtain rfl := pieces.unique (by decide) (isPieces_of_denotes h bar)
    rw [others_cons_of_none hn, others_nil]
    simp [hn]
  · rw [← denotes_members_iff pieces (visible_of_denotes h) hv hn, denotes_iff_eq h]
    simp [hn]

/-- A type variable without a colon has no bar. -/
theorem bar_not_mem_of_unbounded (h : Denotes text r) (hv : IsVariable text) (hc : ':' ∉ text) :
    '|' ∉ text := by
  induction h using Denotes.variable_induction with
  | plain text r hn _ => exact absurd hv hn
  | unbounded text name tilde _ identifier =>
      have hn : '|' ∉ name := fun hm => (isName_of_isIdentifier identifier).not_mem
        (by decide : '|' ∈ delimiters) (mem_trim hm (by decide))
      exact not_mem_of_tilde tilde hn (by decide) (by decide)
  | bounded name binder text r hb _ _ =>
      exact absurd (List.mem_append_left _ (colon_mem_binder hb)) hc

/-- **`None` after a text.**  It is read in the text inside all the bounds, if that is neither a
type variable nor `None`. -/
theorem denotes_orNone_iff (h : Denotes text r) :
    Denotes (text ++ " | None".toList) s ↔
      s = r ∧ ¬ IsVariable (innermost text) ∧ trim (innermost text) ≠ noneWord := by
  induction h using Denotes.variable_induction generalizing s with
  | plain text r hv h =>
      obtain ⟨p, ps, pieces⟩ := exists_isPieces_of_denotes h
      rw [denotes_orNone_members_iff pieces (visible_of_denotes h) hv,
        members_iff_of_plain h hv pieces, innermost_of_not_variable hv]
      simp [hv]
  | unbounded text name tilde first identifier =>
      have colon := not_mem_of_tilde tilde first (by decide) (by decide)
      have hv := isVariable_of_trim tilde
      -- the bar would be in the name
      refine iff_of_false (fun hs => ?_) fun ⟨_, hi, _⟩ =>
        hi ((innermost_of_not_mem colon).symm ▸ hv)
      have longer : IsVariable (text ++ " | None".toList) :=
        (head?_trim_append (by simp [tilde]) _).trans hv
      exact bar_not_mem_of_unbounded hs longer (by simp [colon]) (by simp)
  | bounded name binder text r hb h ih =>
      rw [List.append_assoc, denotes_bounded_iff hb, innermost_binder hb]
      simp only [ih]
      constructor
      · rintro ⟨s', ⟨rfl, hi⟩, rfl⟩
        exact ⟨rfl, hi⟩
      · rintro ⟨rfl, hi⟩
        exact ⟨r, ⟨rfl, hi⟩, rfl⟩

/-! ### `None` before a text -/

/-- No member after the first is anything but `None`. -/
def OthersNone (text : List Char) : Prop :=
  ∃ p ps, IsPieces '|' text (p :: ps) ∧ ∀ q ∈ ps, trim q = noneWord

theorem denotes_first {p : List Char} (h : Denotes text r) (hv : ¬ IsVariable text)
    (pieces : IsPieces '|' text (p :: ps)) (hn : ∀ q ∈ ps, trim q = noneWord) : Denotes p r := by
  by_cases ht : trim text = noneWord
  · have bar : '|' ∉ text := fun hm => ne_noneWord_of_bar hm ht
    cases pieces.unique (by decide) (isPieces_of_denotes h bar)
    exact h
  · obtain ⟨m, hm, hr⟩ := (members_iff_of_plain h hv pieces).2 ⟨rfl, ht⟩
    by_cases hp : trim p = noneWord
    · rw [others_cons_of_none hp, others_eq_nil_iff.2 hn] at hm
      cases hm
    · rw [others_cons_of_some hp, others_eq_nil_iff.2 hn] at hm
      cases hm
      exact denotes_trim.1 hr

theorem othersNone_iff {p : List Char} (pieces : IsPieces '|' text (p :: ps)) :
    OthersNone text ↔ ∀ q ∈ ps, trim q = noneWord := by
  constructor
  · rintro ⟨p', ps', pieces', hn⟩
    cases pieces.unique (by decide) pieces'
    exact hn
  · exact fun hn => ⟨p, ps, pieces, hn⟩

/-- The members of a text after the first are those of the text inside all the bounds.  The first
stands for what the whole stands for if the others are `None`, and is a type variable if the whole
is. -/
theorem exists_members (h : Denotes text r) :
    ∃ p q ps, IsPieces '|' text (p :: ps) ∧ IsPieces '|' (innermost text) (q :: ps) ∧
      ((∀ a ∈ ps, trim a = noneWord) → Denotes p r) ∧ (IsVariable text → IsVariable p) := by
  induction h using Denotes.variable_induction with
  | plain text r hv h =>
      obtain ⟨p, ps, pieces⟩ := exists_isPieces_of_denotes h
      exact ⟨p, p, ps, pieces, (innermost_of_not_variable hv).symm ▸ pieces,
        denotes_first h hv pieces, fun hc => absurd hc hv⟩
  | unbounded text name tilde first identifier =>
      have h : Denotes text _ := .leaf (.unbounded tilde first identifier)
      have colon := not_mem_of_tilde tilde first (by decide) (by decide)
      have bar := bar_not_mem_of_unbounded h (isVariable_of_trim tilde) colon
      have whole := isPieces_of_denotes h bar
      exact ⟨text, text, [], whole, (innermost_of_not_mem colon).symm ▸ whole, fun _ => h, id⟩
  | bounded name binder text r hb h ih =>
      obtain ⟨p, q, ps, pieces, inner, hp, -⟩ := ih
      refine ⟨binder ++ p, q, ps, isPieces_binder hb pieces, ?_, fun hn => ?_,
        fun _ => isVariable_binder hb p⟩
      · rwa [innermost_binder hb]
      · exact (denotes_bounded_iff hb).2 ⟨r, hp hn, rfl⟩

/-- **`None` before a text** that is not `None` is one more member.  A type variable admits it only
if the text inside all its bounds has no member but `None` after its first. -/
theorem denotes_noneOr_iff (h : Denotes text r) (hn : trim text ≠ noneWord) :
    Denotes ("None | ".toList ++ text) s ↔
      s = r ∧ (IsVariable text → OthersNone (innermost text)) := by
  obtain ⟨p, q, ps, pieces, inner, hp, hvp⟩ := exists_members h
  rw [denotes_noneOr_members_iff pieces, othersNone_iff inner]
  by_cases hv : IsVariable text
  · -- the first member starts with the tilde, so the others have to be `None`
    have first : trim p ≠ noneWord := fun ht => by
      have head := hvp hv
      rw [IsVariable, ht] at head
      exact absurd head (by decide)
    rw [others_cons_of_some first]
    constructor
    · rintro ⟨m, hm, hs⟩
      obtain ⟨rfl, hnil⟩ := List.cons_eq_cons.1 hm
      have hall := others_eq_nil_iff.1 hnil
      exact ⟨(denotes_trim.1 hs).unique (hp hall), fun _ => hall⟩
    · rintro ⟨rfl, hall⟩
      exact ⟨trim p, by rw [others_eq_nil_iff.2 (hall hv)], denotes_trim.2 (hp (hall hv))⟩
  · rw [members_iff_of_plain h hv pieces]
    simp [hn, hv]

/-! ### Reading -/

/-- **References that may be `None`.**  What is read of a text other than `None` is read of it in
the brackets of `Optional`.  With `None` after or before it, the same is read or nothing: always the
same if the text is no type variable, and else if the text inside all the bounds admits it. -/
theorem ofText_optional_iff {text : String} {r : TypeRef} (h : ofText text = .ok r)
    (hn : trim text.toList ≠ noneWord) :
    (∀ head, qualify head ∈ optionalNames → ofText (head ++ "[" ++ text ++ "]") = .ok r) ∧
    (∀ s, ofText (text ++ " | None") = .ok s ↔
      s = r ∧ (IsVariable text.toList → ¬ IsVariable (innermost text.toList) ∧
        trim (innermost text.toList) ≠ noneWord)) ∧
    (∀ s, ofText ("None | " ++ text) = .ok s ↔
      s = r ∧ (IsVariable text.toList → OthersNone (innermost text.toList))) := by
  have denotes := denotes_of_read h
  refine ⟨fun head ho => ?_, fun s => ?_, fun s => ?_⟩
  · have inside := (denotes_group_iff (.optional ho)).2 ⟨r, denotes, rfl⟩
    exact read_of_denotes (toList_group head text ▸ inside)
  · rw [ofText, read_eq_ok_iff, String.toList_append, denotes_orNone_iff denotes]
    by_cases hv : IsVariable text.toList
    · simp [hv]
    · rw [innermost_of_not_variable hv]
      simp [hv, hn]
  · rw [ofText, read_eq_ok_iff, String.toList_append]
    exact denotes_noneOr_iff denotes hn

/-- A type variable bounded by a class. -/
def boundedStr : TypeRef := typeVariable "T" (some (ofClass "builtins.str"))

theorem denotes_str : Denotes " str".toList (ofClass "builtins.str") := by
  have single : Single " str".toList "str".toList :=
    (tidy_name (isName_of_isDotted (by decide))).single (by decide) (by decide)
  have written := Written.name single (by decide) fun p => by cases p <;> decide
  have builtin : qualify (String.ofList "str".toList) = "builtins.str" :=
    qualify_of_mem (by simp [builtinNames])
  exact builtin ▸ .leaf written

theorem ofText_optional_boundedStr :
    ofText "~T: str" = .ok boundedStr ∧ ofText "Optional[~T: str]" = .ok boundedStr ∧
      ofText "~T: str | None" = .ok boundedStr ∧ ofText "None | ~T: str" = .ok boundedStr := by
  have binder : IsBinder "T" "~T:".toList := isBinder_of_identifier (by decide)
  have denotes : Denotes ("~T:".toList ++ " str".toList) boundedStr :=
    (denotes_bounded_iff binder).2 ⟨_, denotes_str, rfl⟩
  have bound : innermost "~T: str".toList = " str".toList :=
    (innermost_binder binder " str".toList).trans (innermost_of_not_variable (by decide))
  have whole := isPieces_of_denotes denotes_str (by decide)
  have read := read_of_denotes denotes
  obtain ⟨inside, after, before⟩ := @ofText_optional_iff "~T: str" _ read (by decide)
  rw [bound] at after before
  exact ⟨read, inside "Optional" (by decide), (after _).2 ⟨rfl, fun _ => by decide⟩,
    (before _).2 ⟨rfl, fun _ => (othersNone_iff whole).2 (by simp)⟩⟩

/-- A type variable without a bound is not read with `None` after it. -/
theorem not_ofText_optional :
    ¬ ∀ (text : String) (r : TypeRef), ofText text = .ok r → trim text.toList ≠ noneWord →
      ofText (text ++ " | None") = .ok r ∧ ofText ("None | " ++ text) = .ok r ∧
        ofText ("Optional[" ++ text ++ "]") = .ok r ∧
        ofText ("typing.Optional[" ++ text ++ "]") = .ok r := by
  intro h
  have denotes : Denotes "~T".toList (typeVariable (String.ofList (trim "T".toList)) none) :=
    .leaf (.unbounded (by decide) (by decide) (by decide))
  have after := denotes_of_read (h "~T" _ (read_of_denotes denotes) (by decide)).1
  rw [String.toList_append] at after
  obtain ⟨-, inner, -⟩ := (denotes_orNone_iff denotes).1 after
  rw [innermost_of_not_mem (by decide)] at inner
  exact inner (by decide)

end TypeCatalog.TypeRef
