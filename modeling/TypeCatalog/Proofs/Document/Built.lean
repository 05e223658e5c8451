import TypeCatalog.Document.Reader
import TypeCatalog.Proofs.Outcome
import TypeCatalog.Proofs.Value.Within

/-! # Documents — what is built

An entry of a mapping whose key agrees with that of an earlier entry takes its place.  So in what a
document stands for no two keys of a mapping agree, whether it is a part of others or of itself.
Nor is there an annotation in it: the parts of a document are scalars and collections.

* `Builder.Keyed`: the keys of what is built are apart.
* `Builder.keyed_fill`: a step keeps that.
* `wellKeyed_read`: the value of a document is well keyed.
* `isRaw_read`: it is raw.
-/

namespace TypeCatalog

namespace Document

open Value (LayerApart)

/-- What holds at the start of a fold and is kept by its steps holds at the end. -/
theorem foldlM_induction {ε α β : Type} {f : β → α → Except ε β} {P : β → Prop}
    (step : ∀ b a c, P b → f b a = .ok c → P c) {as : List α} {b c : β} (hb : P b)
    (h : as.foldlM f b = .ok c) : P c := by
  induction as generalizing b with
  | nil => exact Except.ok.inj h ▸ hb
  | cons a as ih =>
      obtain ⟨d, hd, h⟩ := bind_eq_ok_iff.1 (List.foldlM_cons.symm.trans h)
      exact ih (step b a d hb hd) h

/-- An entry is put as one of values would be. -/
theorem map_putEntry (key : Scalar) (i : Nat) (es : List (Scalar × Nat)) :
    (putEntry key i es).map (fun e => (e.1.toValue, Value.null)) =
      Value.put key.toValue .null (es.map fun e => (e.1.toValue, .null)) := by
  induction es with
  | nil => rfl
  | cons e es ih =>
      obtain ⟨k, j⟩ := e
      rw [putEntry, List.map_cons, Value.put]
      split
      · rfl
      · rw [List.map_cons, ih]

theorem layerApart_putEntry {es : List (Scalar × Nat)} (h : LayerApart (.dict es)) (key : Scalar)
    (i : Nat) : LayerApart (.dict (putEntry key i es)) := by
  have apart : Value.KeysApart (es.map fun e => (e.1.toValue, Value.null)) :=
    List.pairwise_map.2 h
  have put := apart.put key.toValue .null
  rw [← map_putEntry] at put
  exact List.pairwise_map.1 put

namespace Builder

/-- The keys of what is built are apart. -/
def Keyed (b : Builder) : Prop := ∀ i l, b.cell? i = some l → LayerApart l

variable {b c : Builder} {i : Nat}

theorem keyed_start (nodes : Nodes) : (start nodes).Keyed := by
  intro i l h
  have empty : (start nodes).cell? i = none := by
    rw [cell?, start, Array.getD_eq_getD_getElem?, Array.getElem?_replicate]
    split <;> rfl
  cases empty.symm.trans h

theorem Keyed.put (h : b.Keyed) {l : Layer Nat} (hl : LayerApart l) : (b.put i l).Keyed := by
  intro j m hm
  rw [cell?, Builder.put, Array.getD_eq_getD_getElem?, Array.getElem?_setIfInBounds] at hm
  split at hm
  · split at hm
    · exact Option.some.inj hm ▸ hl
    · cases hm
  · rw [← Array.getD_eq_getD_getElem?] at hm
    exact h j m hm

theorem Keyed.meet (h : b.Keyed) (hc : b.meet i = .ok c) : c.Keyed := by
  rw [Builder.meet] at hc
  split at hc
  · exact Except.ok.inj hc ▸ h
  · split at hc
    · rename_i l hl
      have apart : LayerApart l := by
        cases hk : b.nodes.kind i <;> rw [hk, Kind.emptyLayer?] at hl <;> cases hl
        all_goals first | exact List.Pairwise.nil | trivial
      exact Except.ok.inj hc ▸ h.put apart
    · obtain ⟨s, -, rfl⟩ := map_eq_ok_iff.1 hc
      exact h.put trivial

theorem Keyed.meetKey {s : Scalar} (h : b.Keyed) (hc : b.meetKey i = .ok (s, c)) : c.Keyed := by
  obtain ⟨d, hd, hc⟩ := bind_eq_ok_iff.1 hc
  split at hc
  · obtain ⟨-, rfl⟩ := Prod.mk.inj (Except.ok.inj hc)
    exact h.meet hd
  · cases hc

theorem Keyed.meetEntries {es : List (Nat × Nat)} {fs : List (Scalar × Nat)} (h : b.Keyed)
    (hc : b.meetEntries es = .ok (fs, c)) : LayerApart (.dict fs) ∧ c.Keyed := by
  have none : LayerApart (.dict ([] : List (Scalar × Nat))) := List.Pairwise.nil
  refine foldlM_induction (P := fun r => LayerApart (.dict r.1) ∧ r.2.Keyed) ?_ ⟨none, h⟩ hc
  rintro ⟨done, d⟩ e ⟨next, d'⟩ ⟨apart, hd⟩ step
  obtain ⟨⟨key, d₁⟩, hkey, step⟩ := bind_eq_ok_iff.1 step
  obtain ⟨d₂, hvalue, step⟩ := bind_eq_ok_iff.1 step
  obtain ⟨rfl, rfl⟩ := Prod.mk.inj (Except.ok.inj step)
  exact ⟨layerApart_putEntry apart key e.2, (hd.meetKey hkey).meet hvalue⟩

theorem Keyed.meetPairs {items : List Nat} {ps : List (Nat × Nat)} (h : b.Keyed)
    (hc : b.meetPairs items = .ok (ps, c)) : c.Keyed := by
  refine foldlM_induction (P := fun r => r.2.Keyed) ?_ h hc
  rintro ⟨done, d⟩ j ⟨next, d'⟩ hd step
  dsimp only at step
  split at step
  · obtain ⟨d₁, hkey, step⟩ := bind_eq_ok_iff.1 step
    obtain ⟨d₂, hvalue, step⟩ := bind_eq_ok_iff.1 step
    obtain ⟨rfl, rfl⟩ := Prod.mk.inj (Except.ok.inj step)
    exact (hd.meet hkey).meet hvalue
  · cases step

/-- **A step** leaves the keys of what is built apart. -/
theorem Keyed.fill (h : b.Keyed) (hc : b.fill i = .ok c) : c.Keyed := by
  rw [Builder.fill] at hc
  split at hc
  · obtain ⟨d, hd, hc⟩ := bind_eq_ok_iff.1 hc
    have built : d.Keyed := foldlM_induction (fun _ _ _ hb hstep => hb.meet hstep) h hd
    exact Except.ok.inj hc ▸ built.put trivial
  · obtain ⟨⟨ps, d⟩, hd, hc⟩ := bind_eq_ok_iff.1 hc
    exact Except.ok.inj hc ▸ (h.meetPairs hd).put trivial
  · obtain ⟨nodes, -, hc⟩ := bind_eq_ok_iff.1 hc
    obtain ⟨⟨es, d⟩, hd, hc⟩ := bind_eq_ok_iff.1 hc
    obtain ⟨apart, built⟩ := meetEntries (b := { b with nodes := nodes }) h hd
    exact Except.ok.inj hc ▸ built.put apart
  · obtain ⟨nodes, -, hc⟩ := bind_eq_ok_iff.1 hc
    obtain ⟨⟨es, d⟩, hd, hc⟩ := bind_eq_ok_iff.1 hc
    obtain ⟨-, built⟩ := meetEntries (b := { b with nodes := nodes }) h hd
    exact Except.ok.inj hc ▸ built.put trivial
  · cases hc

theorem Keyed.run {steps : Nat} (h : b.Keyed) (hc : b.run steps = .ok c) : c.Keyed := by
  induction steps generalizing b with
  | zero => exact Except.ok.inj hc ▸ h
  | succ steps ih =>
      rw [Builder.run] at hc
      split at hc
      · exact Except.ok.inj hc ▸ h
      · rename_i rest _
        obtain ⟨d, hd, hc⟩ := bind_eq_ok_iff.1 hc
        exact ih (Keyed.fill (b := { b with waiting := rest }) h hd) hc

theorem Keyed.layerApart_table (h : b.Keyed) (i : Nat) : LayerApart (b.table.layer i) := by
  rw [Cells.layer, table, Array.getD_eq_getD_getElem?, Array.getElem?_map]
  cases hc : b.cells[i]? with
  | none => trivial
  | some l? =>
      cases l? with
      | none => trivial
      | some l => exact h i l (by rw [cell?, Array.getD_eq_getD_getElem?, hc]; rfl)

end Builder

/-- What a document stands for is what is at a place of a table where keys are apart. -/
theorem Graph.content_eq_ok {g : Graph} {v : Value} (h : g.content = .ok v) :
    ∃ cells : Cells, (∀ i, LayerApart (cells.layer i)) ∧ cells.value g.root = v := by
  obtain ⟨b, hb, h⟩ := bind_eq_ok_iff.1 h
  obtain ⟨c, hc, h⟩ := bind_eq_ok_iff.1 h
  exact ⟨c.table, (((Builder.keyed_start g.nodes).meet hb).run hc).layerApart_table,
    Except.ok.inj h⟩

/-- A document holds nothing, or is built from its parts. -/
theorem read_eq_ok {text : String} {v : Value} (h : read text = .ok v) :
    v = .null ∨ ∃ g : Graph, g.content = .ok v := by
  simp only [read] at h
  split at h
  · cases h
  · obtain ⟨g?, -, h⟩ := bind_eq_ok_iff.1 h
    cases g? with
    | none => exact .inl (Except.ok.inj h).symm
    | some g => exact .inr ⟨g, h⟩

/-- **The value of a document** is well keyed. -/
theorem wellKeyed_read {text : String} {v : Value} (h : read text = .ok v) : v.WellKeyed := by
  rcases read_eq_ok h with rfl | ⟨g, hg⟩
  · exact .other nofun nofun nofun
  · obtain ⟨cells, apart, rfl⟩ := Graph.content_eq_ok hg
    exact Value.wellKeyed_value apart g.root

/-- **The value of a document** has no annotation in it. -/
theorem isRaw_read {text : String} {v : Value} (h : read text = .ok v) : v.IsRaw := by
  rcases read_eq_ok h with rfl | ⟨g, hg⟩
  · exact Value.IsScalar.isRaw trivial
  · obtain ⟨cells, -, rfl⟩ := Graph.content_eq_ok hg
    exact Value.isRaw_value cells g.root

end Document

end TypeCatalog
