import TypeCatalog.Proofs.Document.Built
import TypeCatalog.Proofs.Snapshot.PassedOver
import TypeCatalog.Proofs.Snapshot.Written

/-! # Snapshots — annotations as JSON

A snapshot may have any value of a document among the values of an annotation: bytes, dates and sets
too, mappings with such keys, and what holds itself.  Recording goes into lists and annotations, for
which JSON has a form, and writing a recorded value back leaves a form to what recording has passed
over, if it had one.

* `hasJson_writtenValue_iff`: by induction on what is recorded, a value that is written back has a
  form if all that was passed over has one.
* `hasJson_written_iff`: the same of an annotation.
* `Snapshot.isRaw_of_check`: the values of a document with no annotation in it have none either.
-/

namespace TypeCatalog

open Value (HasJson IsRaw Within)

/-! ### Values -/

-- Along the recursion of writing, which goes into tuples and annotations only.
mutual

/-- Writing a raw value does not change whether JSON has a form for it. -/
theorem hasJson_writtenRaw_iff : ∀ v : Value, v.IsRaw → ((writtenValue v).HasJson ↔ v.HasJson)
  | .tuple xs, raw => by
      have items := hasJson_writtenItems_iff xs fun x hx => raw.of_within (.tuple hx .self)
      rw [writtenValue, Value.hasJson_list_iff, Value.hasJson_tuple_iff, items]
  | .nested n vs k p, raw => absurd .self (raw n vs k p)
  | .null, _ | .bool _, _ | .int _, _ | .float _, _ | .notNumber, _ | .text _, _ | .bytes _, _
  | .date _, _ | .moment _, _ | .set _, _ | .list _, _ | .dict _, _ | .knot _, _ => by
      rw [writtenValue] <;> simp

theorem hasJson_writtenItems_iff : ∀ xs : List Value, (∀ x ∈ xs, x.IsRaw) →
    ((∀ y ∈ writtenItems xs, y.HasJson) ↔ ∀ x ∈ xs, x.HasJson)
  | [], _ => iff_of_true (List.forall_mem_nil _) (List.forall_mem_nil _)
  | x :: xs, raw => by
      obtain ⟨hx, hxs⟩ := List.forall_mem_cons.1 raw
      rw [writtenItems, List.forall_mem_cons, List.forall_mem_cons, hasJson_writtenRaw_iff x hx,
        hasJson_writtenItems_iff xs hxs]

end

theorem hasJson_writtenNamed_iff {vs : Entries String Value} :
    HasJson (.dict (writtenNamed vs)) ↔ ∀ p ∈ vs, (writtenValue p.2).HasJson := by
  have fields :
      Value.dict (writtenNamed vs) = .ofFields (vs.map fun p => (p.1, writtenValue p.2)) := by
    rw [writtenNamed_eq, Value.ofFields, List.map_map]
    rfl
  rw [fields, Value.hasJson_ofFields_iff, List.forall_mem_map]

theorem hasJson_writtenNested_iff {n : String} {vs : Entries String Value} {k : Option ElementKind}
    {p : Option Int} :
    (writtenValue (.nested n vs k p)).HasJson ↔ ∀ e ∈ vs, (writtenValue e.2).HasJson := by
  rw [writtenValue, Value.hasJson_ofFields_iff, List.forall_mem_cons, List.forall_mem_singleton,
    hasJson_writtenNamed_iff]
  exact and_iff_right (.text n)

/-- JSON has a form for all that recording comes to in a value and leaves as it is. -/
def LeavesJson (v : Value) : Prop := ∀ u, PassedOver u v → u.HasJson

/-- What recording comes to in a value is in it. -/
theorem within_of_inner {v x : Value} (h : Inner v x) : Within x v := by
  rcases parts_of_inner h with hx | ⟨y, hy, hx⟩
  · exact Value.within_of_parts hx
  · exact (Value.within_of_parts hx).trans (Value.within_of_parts hy)

/-- **A recorded value** that is written back has a form in JSON if all that was passed over has
one. -/
theorem hasJson_writtenValue_iff {v w : Value} (raw : v.IsRaw) (h : recordValue v = .ok w) :
    (writtenValue w).HasJson ↔ LeavesJson v := by
  refine (recordValue_induction
    (P := fun v w => v.IsRaw → (LeavesJson v ↔ (writtenValue w).HasJson))
    (fun v xs ys list items raw => ?_) (fun v name vs ws annotated values raw => ?_)
    (fun v stays raw => ?_) h raw).symm
  · have same := forall₂_of_forall_mem items fun x hx =>
      raw.of_within (within_of_inner (.item list hx))
    rw [writtenValue, writtenItems_eq, Value.hasJson_list_iff, List.forall_mem_map,
      ← forall_mem_iff_of_forall₂ same]
    simp only [LeavesJson, passedOver_list_iff list]
    exact ⟨fun h x hx u hu => h u ⟨x, hx, hu⟩, fun h u ⟨x, hx, hu⟩ => h x hx u hu⟩
  · have same := values.of_forall_mem fun p hp =>
      raw.of_within (within_of_inner (.value annotated hp))
    rw [hasJson_writtenNested_iff, ← same.forall_iff]
    simp only [LeavesJson, passedOver_annotation_iff annotated]
    exact ⟨fun h p hp u hu => h u ⟨p, hp, hu⟩, fun h u ⟨p, hp, hu⟩ => h p hp u hu⟩
  · simp only [hasJson_writtenRaw_iff v raw, LeavesJson, passedOver_iff_of_stays stays, forall_eq]

/-- **An annotation** has a form in JSON if there is one for all that recording its values has
passed over. -/
theorem hasJson_written_iff {e : AnnotationEntry} {a : AnnotationRecord} (h : RecordedAs e a)
    (raw : ∀ p ∈ e.values, p.2.IsRaw) :
    a.written.HasJson ↔ ∀ p ∈ e.values, LeavesJson p.2 := by
  have same : InStep (fun v w => LeavesJson v ↔ (writtenValue w).HasJson) e.values a.values :=
    InStep.of_forall_mem (h.values.imp fun v w hw raw => (hasJson_writtenValue_iff raw hw).symm) raw
  rw [AnnotationRecord.written, AnnotationRecord.toValue, hasJson_writtenNested_iff,
    same.forall_iff]

/-! ### Documents -/

section

variable {v : Value} {es : List (Value × Value)}

/-- What passes as one of a list of parts is a raw value, if the record is one. -/
theorem Checked.exists_of_fieldOr_list {α : Type} {check : Value → Checked α} {name : String}
    {as : List α} (raw : v.IsRaw) (hes : v.entries? = some es)
    (h : fieldOr es name [] (list check) = .valid as) {a : α} (ha : a ∈ as) :
    ∃ x, x.IsRaw ∧ check x = .valid a := by
  rcases fieldOr_eq_valid_iff.1 h with ⟨-, rfl⟩ | ⟨w, hw, hxs⟩
  · cases ha
  · obtain ⟨xs, hxs, items⟩ := list_eq_valid_iff.1 hxs
    obtain ⟨x, hx, hxa⟩ := exists_of_forall₂ items.flip ha
    exact ⟨x, (raw.of_entries? hes (Value.mem_of_field? hw)).of_items? hxs hx, hxa⟩

theorem AnnotationEntry.isRaw_of_check {e : AnnotationEntry} (raw : v.IsRaw)
    (h : check v = .valid e) : ∀ p ∈ e.values, p.2.IsRaw := by
  intro p hp
  obtain ⟨es, -, hes, -, -, values⟩ := of_check h
  rcases values with ⟨-, none⟩ | ⟨w, hw, fs, fields, hfs, read, values⟩
  · rw [none] at hp
    cases hp
  · rw [← values] at hp
    obtain ⟨f, hf, -, same⟩ := exists_of_forall₂ read.flip (Checked.mem_of_mem_byName hp)
    rw [← same]
    exact (raw.of_entries? hes (Value.mem_of_field? hw)).of_entries? hfs hf

theorem ClassEntry.isRaw_of_check {e : ClassEntry} (raw : v.IsRaw) (h : check v = .valid e)
    {a : AnnotationEntry} (ha : a ∈ e.annotations) : ∀ p ∈ a.values, p.2.IsRaw := by
  simp only [check, Checked.andThen_eq_valid_iff, Checked.record_eq_valid_iff,
    Checked.map_eq_valid_iff, Checked.and_eq_valid_iff] at h
  obtain ⟨es, hes, ⟨_, _, _, as, _⟩, ⟨-, -, -, has, -⟩, rfl⟩ := h
  obtain ⟨w, hw, hwa⟩ := Checked.exists_of_fieldOr_list raw hes has ha
  exact AnnotationEntry.isRaw_of_check hw hwa

end

theorem Stored.ofText_eq_document_iff {reason text : String} {doc : Value} :
    ofText reason text = .document doc ↔ Document.read text = .ok doc := by
  unfold ofText
  cases Document.read text with
  | ok v => simp
  | error f => cases f <;> simp

namespace Snapshot

/-- The values of a document with no annotation in it have none either. -/
theorem isRaw_of_check {doc : Value} {s : Snapshot} (raw : doc.IsRaw)
    (h : check (Stored.orEmpty doc) = .valid s) {e : ClassEntry} (he : e ∈ s.classes)
    {a : AnnotationEntry} (ha : a ∈ e.annotations) : ∀ p ∈ a.values, p.2.IsRaw := by
  have whole : (Stored.orEmpty doc).IsRaw := by
    unfold Stored.orEmpty
    split
    · exact raw
    · exact Value.isRaw_dict (List.forall_mem_nil _)
  simp only [check, Checked.andThen_eq_valid_iff, Checked.record_eq_valid_iff,
    Checked.map_eq_valid_iff, Checked.and_eq_valid_iff] at h
  obtain ⟨es, hes, ⟨cs, _⟩, ⟨hcs, -⟩, rfl⟩ := h
  obtain ⟨v, hv, hve⟩ := Checked.exists_of_fieldOr_list whole hes hcs he
  exact ClassEntry.isRaw_of_check hv hve ha

end Snapshot

end TypeCatalog
