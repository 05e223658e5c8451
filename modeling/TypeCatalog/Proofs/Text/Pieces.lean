import TypeCatalog.Text.Dotted

/-! # Text — cutting again

Pieces hold no separator, so pieces that are put together are cut where they were put together, and
a text with a separator in it is cut into the pieces before and the pieces after it.

A dotted name lies below another one in just that sense: the other's components come first among
its own.  The test for it compares texts and asks for a full stop after the other name; without it,
a name would lie below every name that it starts with as a text.

* `pieces_glue`, `pieces_around`: where a text put together from others is cut.
* `components_path`: a path has the components it was made of.
* `isBelow_iff`: a name lies below another one if the components of the other come first.
-/

namespace TypeCatalog.Text

/-- A piece holds no separator. -/
theorem not_mem_of_mem_pieces {sep : Char} {p : List Char} :
    ∀ {cs : List Char}, p ∈ pieces sep cs → sep ∉ p
  | [],      h => by simp_all [pieces]
  | c :: cs, h => by
      unfold pieces at h
      split at h
      · rcases List.mem_cons.1 h with rfl | h
        · exact List.not_mem_nil
        · exact not_mem_of_mem_pieces h
      · rename_i hc
        obtain ⟨q, qs, hq⟩ := List.exists_cons_of_ne_nil (pieces_ne_nil sep cs)
        have hsep : ∀ r ∈ q :: qs, sep ∉ r := fun r hr => not_mem_of_mem_pieces (hq ▸ hr)
        rw [hq, growFirst, List.mem_cons] at h
        rcases h with rfl | h
        · rw [List.mem_cons, not_or]
          exact ⟨Ne.symm hc, hsep q List.mem_cons_self⟩
        · exact hsep p (List.mem_cons_of_mem _ h)

theorem pieces_of_not_mem {sep : Char} {cs : List Char} (h : sep ∉ cs) : pieces sep cs = [cs] := by
  induction cs with
  | nil => rfl
  | cons c cs ih =>
      rw [List.mem_cons, not_or] at h
      rw [pieces, if_neg (Ne.symm h.1), ih h.2]
      rfl

/-- Pieces that are glued are cut where they were glued. -/
theorem pieces_glue {sep : Char} : ∀ {ps : List (List Char)}, ps ≠ [] → (∀ p ∈ ps, sep ∉ p) →
    pieces sep (glue sep ps) = ps
  | [p],         _, h => pieces_of_not_mem (h p List.mem_cons_self)
  | p :: q :: r, _, h => by
      rw [glue, pieces_append _ (h p List.mem_cons_self),
        pieces_glue (by simp) fun s hs => h s (List.mem_cons_of_mem _ hs)]

/-! ### Around a separator -/

theorem growFirst_append (c : Char) {ps : List (List Char)} (h : ps ≠ []) (qs : List (List Char)) :
    growFirst c (ps ++ qs) = growFirst c ps ++ qs := by
  obtain ⟨p, ps, rfl⟩ := List.exists_cons_of_ne_nil h
  rfl

/-- A text is cut at any separator in it. -/
theorem pieces_around (sep : Char) (front back : List Char) :
    pieces sep (front ++ sep :: back) = pieces sep front ++ pieces sep back := by
  induction front with
  | nil => simp [pieces]
  | cons c front ih =>
      rw [List.cons_append, pieces, ih]
      by_cases hc : c = sep
      · rw [pieces, if_pos hc, if_pos hc, List.cons_append]
      · rw [pieces, if_neg hc, if_neg hc, growFirst_append c (pieces_ne_nil sep front)]

theorem glue_append (sep : Char) {ps qs : List (List Char)} (hp : ps ≠ []) (hq : qs ≠ []) :
    glue sep (ps ++ qs) = glue sep ps ++ sep :: glue sep qs := by
  obtain ⟨q, qs, rfl⟩ := List.exists_cons_of_ne_nil hq
  induction ps with
  | nil => exact absurd rfl hp
  | cons p ps ih =>
      cases ps with
      | nil => rfl
      | cons r ps =>
          have ih := ih (by simp)
          simp only [List.cons_append, glue] at ih ⊢
          rw [ih, List.append_assoc, List.cons_append]

theorem glue_cons (sep : Char) (p : List Char) {ps : List (List Char)} (h : ps ≠ []) :
    glue sep (p :: ps) = p ++ sep :: glue sep ps :=
  glue_append sep (List.cons_ne_nil p []) h

theorem glue_concat (sep : Char) (p : List Char) {ps : List (List Char)} (h : ps ≠ []) :
    glue sep (ps ++ [p]) = glue sep ps ++ sep :: p :=
  glue_append sep h (List.cons_ne_nil p [])

/-! ### Dotted names -/

theorem components_ne_nil (name : String) : components name ≠ [] := by
  simpa [components] using pieces_ne_nil '.' name.toList

/-- The path of its components is the name. -/
theorem path_components (name : String) : path (components name) = name := by
  rw [path, components, List.map_map]
  simp [Function.comp_def, glue_pieces]

/-- Components hold no full stop. -/
theorem not_mem_of_mem_components {name part : String} (h : part ∈ components name) :
    '.' ∉ part.toList := by
  obtain ⟨p, hp, rfl⟩ := List.mem_map.1 h
  rw [String.toList_ofList]
  exact not_mem_of_mem_pieces hp

/-- A path has the components it was made of. -/
theorem components_path {parts : List String} (hne : parts ≠ [])
    (h : ∀ part ∈ parts, '.' ∉ part.toList) : components (path parts) = parts := by
  have hp : ∀ p ∈ parts.map String.toList, '.' ∉ p := by simpa using h
  rw [components, path, String.toList_ofList, pieces_glue (by simpa using hne) hp, List.map_map]
  simp [Function.comp_def]

/-- **A name lies below another one** if the components of the other come first among its own. -/
theorem isBelow_iff {ancestor name : String} :
    isBelow ancestor name = true ↔ components ancestor <+: components name := by
  have dot : (ancestor ++ ".").toList = ancestor.toList ++ ['.'] := by simp
  rw [isBelow, Bool.or_eq_true, beq_iff_eq, List.isPrefixOf_iff_prefix, dot]
  constructor
  · rintro (rfl | ⟨back, hb⟩)
    · exact List.prefix_rfl
    · rw [List.append_assoc, List.singleton_append] at hb
      rw [components, components, ← hb, pieces_around, List.map_append]
      exact List.prefix_append _ _
  · rintro ⟨rest, hr⟩
    by_cases hne : rest = []
    · rw [hne, List.append_nil] at hr
      exact .inl (by rw [← path_components name, ← hr, path_components])
    · -- what stands between the two lists of components is a full stop
      have hg := congrArg (fun parts => glue '.' (parts.map String.toList)) hr
      simp only [List.map_append] at hg
      rw [glue_append '.' (by simpa using components_ne_nil ancestor) (by simpa using hne)] at hg
      simp only [components, List.map_map, Function.comp_def, String.toList_ofList, List.map_id',
        glue_pieces] at hg
      exact .inr ⟨_, by rw [← hg, List.append_assoc, List.singleton_append]⟩

example : isBelow "app" "app.x" = true ∧ isBelow "app" "apple" = false := by decide

end TypeCatalog.Text
