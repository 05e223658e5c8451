import TypeCatalog.Proofs.Outcome
import TypeCatalog.Proofs.Text.Pieces
import TypeCatalog.Settings.Destination

/-! # Settings — destinations in normal form

A destination is kept in normal form, and a normal form that is absolute is a destination as it
stands, whatever the home directories are.

* `Path.ofText_toText`: an absolute path in normal form is read back.
* `Destination.stream_or_path`: a destination is a stream or an absolute path in normal form.
* `Destination.ofText_idem`: a destination that was accepted is accepted again, unchanged.
-/

namespace TypeCatalog

/-! ### Paths -/

namespace Path

/-- The slashes at the front are those that count, and the parts say something. -/
structure IsNormal (p : Path) : Prop where
  root : p.root = "" ∨ p.root = "/" ∨ p.root = "//"
  parts : ∀ q ∈ p.parts, q ≠ [] ∧ q ≠ ['.'] ∧ '/' ∉ q

theorem isNormal_ofText (s : String) : (ofText s).IsNormal where
  root := by
    simp only [ofText, rootOf]
    split <;> simp
  parts q hq := by
    simp only [ofText, partsOf, List.mem_filter, Bool.and_eq_true, Bool.not_eq_true',
      List.isEmpty_eq_false_iff, bne_iff_ne] at hq
    exact ⟨hq.2.1, hq.2.2, Text.not_mem_of_mem_pieces hq.1⟩

/-- The parts of a path in normal form are read back. -/
theorem IsNormal.partsOf_glue {p : Path} (h : p.IsNormal) :
    partsOf (Text.glue '/' p.parts) = p.parts := by
  by_cases hp : p.parts = []
  · rw [hp]
    rfl
  · rw [partsOf, Text.pieces_glue hp fun q hq => (h.parts q hq).2.2]
    refine List.filter_eq_self.2 fun q hq => ?_
    obtain ⟨hne, hdot, -⟩ := h.parts q hq
    simp [hne, hdot]

/-- No slash stands in front of the parts. -/
theorem IsNormal.head_glue {p : Path} (h : p.IsNormal) :
    (Text.glue '/' p.parts).takeWhile (· == '/') = [] := by
  match hp : p.parts with
  | [] => rfl
  | [] :: ps => exact absurd rfl (h.parts [] (hp ▸ List.mem_cons_self)).1
  | (c :: q) :: ps =>
      have hmem : '/' ∉ c :: q := (h.parts _ (hp ▸ List.mem_cons_self)).2.2
      have hc : ¬ c = '/' := fun hc => hmem (hc ▸ List.mem_cons_self)
      cases ps <;> simp [Text.glue, hc]

theorem partsOf_slash (cs : List Char) : partsOf ('/' :: cs) = partsOf cs := by
  simp [partsOf, Text.pieces]

/-- **An absolute path** in normal form is read back. -/
theorem ofText_toText {p : Path} (h : p.IsNormal) (ha : p.isAbsolute = true) :
    ofText p.toText = p := by
  have hg := h.head_glue
  have hparts := h.partsOf_glue
  have hroot := h.root
  obtain ⟨root, parts⟩ := p
  simp only at hg hparts hroot
  rcases hroot with rfl | rfl | rfl
  · simp [isAbsolute] at ha
  · simp [ofText, toText, rootOf, partsOf_slash, hg, hparts]
  · simp [ofText, toText, rootOf, partsOf_slash, hg, hparts]

/-- The text of an absolute path starts with a slash. -/
theorem IsNormal.head?_toText {p : Path} (h : p.IsNormal) (ha : p.isAbsolute = true) :
    p.toText.toList.head? = some '/' := by
  have hne : p.root ≠ "" := by simpa [isAbsolute] using ha
  have text : p.toText = p.root ++ String.ofList (Text.glue '/' p.parts) :=
    if_neg fun none => hne none.1
  rw [text, String.toList_append]
  rcases h.root with hr | hr | hr
  · exact absurd hr hne
  · rw [hr]
    rfl
  · rw [hr]
    rfl

end Path

/-! ### Destinations -/

namespace Destination

theorem isNormal_expandHome {homes : Homes} {p q : Path} (hp : p.IsNormal)
    (h : expandHome homes p = .ok q) : q.IsNormal := by
  unfold expandHome at h
  split at h
  · rename_i user rest hroot hparts
    obtain ⟨home, -, h⟩ := bind_eq_ok_iff.1 h
    split at h
    · cases h
    · obtain rfl := Except.ok.inj h
      have hh := Path.isNormal_ofText (directoryText home)
      refine ⟨hh.root, fun part hpart => ?_⟩
      rcases List.mem_append.1 hpart with hpart | hpart
      · exact hh.parts part hpart
      · exact hp.parts part (hparts ▸ List.mem_cons_of_mem _ hpart)
  · obtain rfl := Except.ok.inj h
    exact hp

/-- An absolute path stands for itself. -/
theorem expandHome_of_isAbsolute {homes : Homes} {p : Path} (h : p.isAbsolute = true) :
    expandHome homes p = .ok p := by
  unfold expandHome
  split
  · rename_i hroot hparts
    simp [Path.isAbsolute, hroot] at h
  · rfl

/-- **A destination** is a stream or the text of an absolute path in normal form. -/
theorem stream_or_path {homes : Homes} {text d : String} (h : ofText homes text = .ok d) :
    d ∈ streams ∨ ∃ p : Path, p.IsNormal ∧ p.isAbsolute = true ∧ p.toText = d := by
  unfold ofText at h
  split at h
  · rename_i hs
    obtain rfl := Except.ok.inj h
    exact .inl (by simpa using hs)
  · split at h
    · cases h
    · rename_i p hp
      split at h
      · rename_i ha
        have normal : p.IsNormal := isNormal_expandHome (Path.isNormal_ofText text) hp
        exact .inr ⟨p, normal, ha, Except.ok.inj h⟩
      · cases h

/-- **A destination** that was accepted is accepted again, unchanged. -/
theorem ofText_idem {homes : Homes} {text d : String} (h : ofText homes text = .ok d)
    (homes' : Homes) : ofText homes' d = .ok d := by
  rcases stream_or_path h with hs | ⟨p, hn, ha, rfl⟩
  · rw [ofText, if_pos (by simpa using hs)]
  · simp [ofText, Path.ofText_toText hn ha, expandHome_of_isAbsolute ha, ha]

end Destination

end TypeCatalog
