import TypeCatalog.Proofs.Format.Variables
import TypeCatalog.Proofs.TypeRef.Reread
import TypeCatalog.TypeRef.Boxed

/-! # Type references — the nodes of what is read

Whoever is handed a reference looks at its kind and then at the parts that go with the kind, without
asking whether they are there.  In a reference that a text stands for they are, at every depth
(`Proper`).  So whatever is asked of such a reference has an answer: the name it comes down to, its
format in any table, and whether it is the same type as another one.

* `Shaped.within`: what stands in a shaped reference is shaped.
* `Shaped.proper`: a shaped reference has the parts its kind calls for, and no others.
* `exists_sameType`: two proper references can be compared.
* `proper_of_ofText`: every node of a reference that has been read is proper.
-/

namespace TypeCatalog.TypeRef

open Text

variable {r s : TypeRef}

/-! ### The parts of a node -/

/-- The reference has the parts its kind calls for, and no others. -/
structure Proper (r : TypeRef) : Prop where
  array : r.kind = .array →
    r.name ∈ containers ∧ (∃ component, r.component = some component) ∧ r.bound = none
  typeVariable : r.kind = .typeVariable →
    isIdentifier r.name.toList = true ∧ r.component = none
  primitive : r.kind = .primitive →
    (∃ p : Primitive, p.spelling = r.name ∧ r.asPrimitive = .ok p) ∧
      r.component = none ∧ r.bound = none
  classType : r.kind = .classType →
    (isDotted r.name.toList = true ∧ (∀ c ∈ r.name.toList, isBlank c = false) ∧
      qualify r.name = r.name) ∧ r.component = none ∧ r.bound = none
  annotations : r.annotations = []

/-- Whatever stands in a shaped reference is shaped. -/
theorem Shaped.within (h : Shaped r) (hs : Within s r) : Shaped s := by
  induction hs with
  | here => exact h
  | component hc _ ih =>
      cases h with
      | array _ h => exact ih (Option.some.inj hc ▸ h)
      | primitive | classType | unbounded | bounded => cases hc
  | bound hb _ ih =>
      cases h with
      | bounded _ h => exact ih (Option.some.inj hb ▸ h)
      | primitive | classType | unbounded | array => cases hb

theorem asPrimitive_ofPrimitive (p : Primitive) : (ofPrimitive p).asPrimitive = .ok p := by
  simp [asPrimitive, ofPrimitive, Primitive.ofSpelling?_spelling]

/-- **A shaped reference is proper.** -/
theorem Shaped.proper (h : Shaped r) : Proper r := by
  cases h with
  | primitive p =>
      exact ⟨nofun, nofun, fun _ => ⟨⟨p, rfl, asPrimitive_ofPrimitive p⟩, rfl, rfl⟩, nofun, rfl⟩
  | classType dotted qualified =>
      have visible := (isName_of_isDotted dotted).visible
      exact ⟨nofun, nofun, nofun, fun _ => ⟨⟨dotted, visible, qualified⟩, rfl, rfl⟩, rfl⟩
  | array canonical _ =>
      exact ⟨fun _ => ⟨canonical, ⟨_, rfl⟩, rfl⟩, nofun, nofun, nofun, rfl⟩
  | unbounded identifier => exact ⟨nofun, fun _ => ⟨identifier, rfl⟩, nofun, nofun, rfl⟩
  | bounded identifier _ => exact ⟨nofun, fun _ => ⟨identifier, rfl⟩, nofun, nofun, rfl⟩

/-! ### What is asked of a reference -/

/-- A shaped reference has a canonical name. -/
theorem Shaped.exists_canonicalName (h : Shaped r) : ∃ name, r.canonicalName = .ok name := by
  induction h with
  | primitive p => exact ⟨_, rfl⟩
  | classType dotted qualified => exact ⟨_, rfl⟩
  | array canonical h ih => exact ih
  | unbounded identifier => exact ⟨_, rfl⟩
  | bounded identifier h ih => exact ih

/-- A reference with a canonical name has a format. -/
theorem exists_classify (t : FormatTable) (h : ∃ name, r.canonicalName = .ok name) :
    ∃ f, t.classify r = .ok f := by
  by_cases ha : r.kind = .array
  · exact ⟨.array, t.classify_of_array ha⟩
  · obtain ⟨name, hn⟩ := h
    exact ⟨t.ofName name, by rw [t.classify_of_ne_array ha, hn]; rfl⟩

/-- A proper reference is boxed by another one or is not. -/
theorem exists_isBoxedBy (h : Proper r) (s : TypeRef) : ∃ answer, r.isBoxedBy s = .ok answer := by
  unfold isBoxedBy
  split
  · rename_i hk _
    obtain ⟨⟨p, -, hp⟩, -⟩ := h.primitive hk
    exact ⟨s.boxes p, by rw [hp]; rfl⟩
  · exact ⟨false, rfl⟩

/-- **Two proper references can be compared.** -/
theorem exists_sameType (hr : Proper r) (hs : Proper s) : ∃ answer, r.sameType s = .ok answer := by
  obtain ⟨forth, hf⟩ := exists_isBoxedBy hr s
  unfold sameType
  split
  · exact ⟨true, rfl⟩
  · rw [hf]
    cases forth with
    | true => exact ⟨true, rfl⟩
    | false => exact exists_isBoxedBy hs r

/-! ### What has been read -/

theorem shaped_of_ofText {text : String} (h : ofText text = .ok r) : Shaped r :=
  shaped_of_denotes (denotes_of_read h)

/-- **Every node of what is read is proper.**  In a reference that a text stands for, every
reference at whatever depth has the parts its kind calls for and no others: a container and a
component, an identifier, the spelling of a primitive, or a dotted name without blanks that stands
for itself.  So each has a canonical name and a format in every table, and can be compared with each
reference in what another text stands for. -/
theorem proper_of_ofText {text : String} (h : ofText text = .ok r) (hs : Within s r) :
    Proper s ∧ (∃ name, s.canonicalName = .ok name) ∧
      (∀ t : FormatTable, ∃ f, t.classify s = .ok f) ∧
      ∀ {other : String} {q u : TypeRef}, ofText other = .ok q → Within u q →
        ∃ answer, s.sameType u = .ok answer := by
  have shaped := (shaped_of_ofText h).within hs
  have named := shaped.exists_canonicalName
  refine ⟨shaped.proper, named, fun t => exists_classify t named, fun hq hu => ?_⟩
  exact exists_sameType shaped.proper ((shaped_of_ofText hq).within hu).proper

/-- In the bound of a type variable, a class that is named like a primitive. -/
theorem proper_of_ofText_boundedNamesake :
    ofText "~T: int32[str]" = .ok (.typeVariable "T" (some (ofClass "int32"))) ∧
      Within (ofClass "int32") (.typeVariable "T" (some (ofClass "int32"))) ∧
      Proper (ofClass "int32") ∧
      ∃ answer, (ofClass "int32").sameType (.typeVariable "T" (some (ofClass "int32")))
        = .ok answer := by
  have inside : Within (ofClass "int32") (.typeVariable "T" (some (ofClass "int32"))) :=
    .bound rfl .here
  obtain ⟨proper, -, -, compared⟩ := proper_of_ofText ofText_boundedNamesake inside
  exact ⟨ofText_boundedNamesake, inside, proper, compared ofText_boundedNamesake .here⟩

end TypeCatalog.TypeRef
