import TypeCatalog.Proofs.Snapshot.Escapes

/-! # Snapshots — texts that stand for no type

Where the annotations of a snapshot are in order, there is one thing left that can be wrong with it:
a text that is to be read as a type stands for none.  Then there is no index at all, and the failure
is about the first class with such a text and tells what is wrong with the first such text in it.
Otherwise the index has every class that the snapshot names.

* `ClassEntry.typeTexts`: the texts of a class that are read as types, in order.
* `ClassEntry.fault_info_of_sound`: a class fails as the first of them that stands for no type.
* `Snapshot.exists_get?_iff`: the names of an index are those of the classes.
* `Snapshot.index_of_texts`: when a snapshot has an index, and how it fails.
-/

namespace TypeCatalog

/-! ### The texts of a class -/

/-- The types of a method: the one it returns, then those of its parameters. -/
def MethodEntry.typeTexts (e : MethodEntry) : List String :=
  e.returnType.toList ++ e.parameters.map MemberEntry.type

/-- The types of a class: its superclass and its further bases, those of its fields, those of its
methods. -/
def ClassEntry.typeTexts (e : ClassEntry) : List String :=
  e.superclassText?.toList ++ e.interfaces ++ e.fields.map MemberEntry.type
    ++ e.methods.flatMap MethodEntry.typeTexts

/-- The text of a part that is read as a type. -/
def Part.text? : Part → Option String
  | .type text => some text
  | .value _   => none

theorem texts_map {α : Type} (f : α → String) (as : List α) :
    (as.map fun a => Part.type (f a)).filterMap Part.text? = as.map f := by
  rw [List.filterMap_map, ← List.filterMap_eq_map]
  rfl

theorem texts_types (texts : List String) : (texts.map Part.type).filterMap Part.text? = texts :=
  (texts_map id texts).trans (List.map_id texts)

theorem texts_annotationParts (es : List AnnotationEntry) :
    (annotationParts es).filterMap Part.text? = [] := by
  refine List.filterMap_eq_nil_iff.2 fun p hp => ?_
  obtain ⟨e, -, he⟩ := List.mem_flatMap.1 hp
  obtain ⟨v, -, rfl⟩ := List.mem_map.1 he
  rfl

theorem MemberEntry.texts_fieldParts (e : MemberEntry) :
    e.fieldParts.filterMap Part.text? = [e.type] :=
  congrArg (List.cons e.type) (texts_annotationParts e.annotations)

theorem MethodEntry.texts_parts (e : MethodEntry) :
    e.parts.filterMap Part.text? = e.typeTexts := by
  have own : (e.parameters.flatMap fun p => annotationParts p.annotations).filterMap Part.text?
      = [] := by
    simp [List.filterMap_flatMap, texts_annotationParts]
  rw [parts, List.filterMap_append, List.filterMap_append, List.filterMap_append,
    texts_annotationParts, own, texts_types, texts_map]
  rfl

/-- **Annotations aside**, the parts of a class are the texts of its types. -/
theorem ClassEntry.texts_parts (e : ClassEntry) :
    e.parts.filterMap Part.text? = e.typeTexts := by
  have fields : (e.fields.flatMap MemberEntry.fieldParts).filterMap Part.text?
      = e.fields.map MemberEntry.type := by
    rw [List.filterMap_flatMap, List.map_eq_flatMap]
    simp only [MemberEntry.texts_fieldParts]
  have methods : (e.methods.flatMap MethodEntry.parts).filterMap Part.text?
      = e.methods.flatMap MethodEntry.typeTexts := by
    simp [List.filterMap_flatMap, MethodEntry.texts_parts]
  rw [parts, List.filterMap_append, List.filterMap_append, List.filterMap_append,
    List.filterMap_append, texts_types, texts_types, texts_annotationParts, fields, methods,
    List.append_nil]
  rfl

/-! ### The fault of a class -/

/-- The text stands for a type. -/
def IsType (text : String) : Prop := ∃ r, TypeRef.ofText text = .ok r

/-- The first of the texts that stands for no type, and the fault of reading it. -/
inductive FirstUnread (texts : List String) (fault : TypeFault) : Prop where
  | mk {front back : List String} {text : String} (place : texts = front ++ text :: back)
      (before : ∀ t ∈ front, IsType t) (unread : TypeRef.ofText text = .error fault)

theorem firstUnread_iff {texts : List String} {fault : TypeFault} :
    FirstUnread texts fault ↔
      texts.findSome? (fun t => faultOf (TypeRef.ofText t)) = some fault := by
  simp only [List.findSome?_eq_some_iff, faultOf_eq_none_iff, faultOf_eq_some_iff]
  constructor
  · rintro ⟨place, before, unread⟩
    exact ⟨_, _, _, place, unread, before⟩
  · rintro ⟨front, text, back, place, unread, before⟩
    exact ⟨place, before, unread⟩

theorem Part.fault?_type (text : String) :
    (Part.type text).fault? = (faultOf (TypeRef.ofText text)).map .type := by
  rw [fault?, readType]
  cases TypeRef.ofText text <;> rfl

/-- Where all values can be recorded, parts fail as the texts among them do. -/
theorem firstFault_of_sound {ps : List Part} (sound : ∀ v, .value v ∈ ps → Recordable v) :
    firstFault ps =
      ((ps.filterMap Part.text?).findSome? fun t => faultOf (TypeRef.ofText t)).map .type := by
  induction ps with
  | nil => rfl
  | cons p ps ih =>
      have ih := ih fun v hv => sound v (List.mem_cons_of_mem _ hv)
      rw [firstFault, List.findSome?_cons, ← firstFault, ih]
      cases p with
      | type text =>
          rw [Part.fault?_type, List.filterMap_cons]
          dsimp only [Part.text?]
          rw [List.findSome?_cons]
          cases faultOf (TypeRef.ofText text) <;> rfl
      | value v =>
          have none : (Part.value v).fault? = none :=
            Part.fault?_eq_none_iff.2 (sound v List.mem_cons_self)
          rw [none]
          rfl

/-- **A class fails** as the first of its texts that stands for no type. -/
theorem ClassEntry.fault_info_of_sound {e : ClassEntry}
    (sound : ∀ v, .value v ∈ e.parts → Recordable v) :
    faultOf e.info =
      (e.typeTexts.findSome? fun t => faultOf (TypeRef.ofText t)).map .type := by
  rw [fault_info, firstFault_of_sound sound, texts_parts]

theorem ClassEntry.exists_info_iff {e : ClassEntry}
    (sound : ∀ v, .value v ∈ e.parts → Recordable v) :
    (∃ c, e.info = .ok c) ↔ ∀ text ∈ e.typeTexts, IsType text := by
  rw [← faultOf_eq_none_iff, fault_info_of_sound sound, Option.map_eq_none_iff,
    List.findSome?_eq_none_iff]
  simp only [faultOf_eq_none_iff]
  rfl

theorem ClassEntry.info_eq_error_iff {e : ClassEntry} {f : EntryFault}
    (sound : ∀ v, .value v ∈ e.parts → Recordable v) :
    e.info = .error f ↔ ∃ fault, FirstUnread e.typeTexts fault ∧ .type fault = f := by
  rw [← faultOf_eq_some_iff, fault_info_of_sound sound, Option.map_eq_some_iff]
  simp only [firstUnread_iff]

/-! ### All or nothing -/

namespace Snapshot

/-- What has the shape of an annotation inside the values of an annotation is one, and no such value
goes on for ever in being recorded, as no finite one does. -/
def NestsAnnotations (s : Snapshot) : Prop := ∀ v, .value v ∈ s.parts → Recordable v

/-- Of finite values it is asked only that none is malformed. -/
theorem nestsAnnotations_of_isFinite {s : Snapshot} (finite : ∀ v, .value v ∈ s.parts → v.IsFinite)
    (h : ∀ v, .value v ∈ s.parts → ¬ Malformed v) : s.NestsAnnotations :=
  fun v hv => ⟨h v hv, not_endless_of_isFinite (finite v hv)⟩

theorem NestsAnnotations.sound {s : Snapshot} (h : s.NestsAnnotations) {e : ClassEntry}
    (he : e ∈ s.classes) : ∀ v, .value v ∈ e.parts → Recordable v :=
  fun v hv => h v (List.mem_flatMap.2 ⟨e, he, hv⟩)

/-- The names of an index are those of the entries. -/
theorem exists_get?_iff {source : String} {s : Snapshot} {index : ClassIndex}
    (built : s.index source = .ok index) (name : String) :
    (∃ info, index.get? name = some info) ↔ ∃ e ∈ s.classes, e.name = name := by
  have found := get?_of_index built name
  generalize index.get? name = info? at found ⊢
  cases hf : s.classes.reverse.find? fun e => e.name == name with
  | none =>
      rw [hf] at found
      cases found
      have apart := List.find?_eq_none.1 hf
      simp only [List.mem_reverse, beq_iff_eq] at apart
      exact iff_of_false nofun fun ⟨e, he, hn⟩ => apart e he hn
  | some e =>
      rw [hf] at found
      cases found
      have hn : e.name = name := by simpa using List.find?_some hf
      exact iff_of_true ⟨_, rfl⟩ ⟨e, List.mem_reverse.1 (List.mem_of_find?_eq_some hf), hn⟩

/-- **All or nothing.**  Let everything in the annotations of a snapshot that has the shape of an
annotation be one, and let their values be finite, or at least not hold themselves where recording
goes on for ever.  Then there is an index just if every text for a type stands for one.  Otherwise
building it fails as an invalid snapshot: the location is the position of the first class with a
text that stands for no type, and the reason what is wrong with the first such text in the class, in
the order of `ClassEntry.typeTexts`.  The names in an index are those of all the classes. -/
theorem index_of_texts (source : String) {s : Snapshot} (nested : s.NestsAnnotations) :
    ((∃ index, s.index source = .ok index) ↔
      ∀ e ∈ s.classes, ∀ text ∈ e.typeTexts, IsType text) ∧
    (∀ failure, s.index source = .error failure ↔
      ∃ front e back fault, s.classes = front ++ e :: back ∧
        (∀ d ∈ front, ∀ text ∈ d.typeTexts, IsType text) ∧ FirstUnread e.typeTexts fault ∧
        ∃ f : Fault, failure = .fault f ∧
          f = .invalid source ("classes." ++ toString front.length) fault.report.message ∧
          f.report.family = .indexLoad ∧ f.report.code = .indexInvalid) ∧
    ∀ index, s.index source = .ok index → ∀ name,
      (∃ info, index.get? name = some info) ↔ ∃ e ∈ s.classes, e.name = name := by
  have info_iff {e : ClassEntry} (he : e ∈ s.classes) :
      (∃ c, e.info = .ok c) ↔ ∀ text ∈ e.typeTexts, IsType text :=
    ClassEntry.exists_info_iff (nested.sound he)
  refine ⟨⟨?_, ?_⟩, fun failure => ?_, fun index built => exists_get?_iff built⟩
  · rintro ⟨index, built⟩ e he
    exact (info_iff he).1 (exists_info built he)
  · intro all
    obtain ⟨cs, hcs⟩ := exists_classesFrom source 0 fun e he => (info_iff he).2 (all e he)
    exact ⟨.ofClasses cs, by rw [Snapshot.index, hcs]; rfl⟩
  · rw [index_eq_error_iff]
    constructor
    · rintro ⟨front, e, back, f, hs, before, he, rfl⟩
      have mem {d : ClassEntry} (hd : d ∈ front ++ e :: back) : d ∈ s.classes := hs ▸ hd
      obtain ⟨fault, first, rfl⟩ :=
        (ClassEntry.info_eq_error_iff (nested.sound (mem (by simp)))).1 he
      exact ⟨front, e, back, fault, hs,
        fun d hd => (info_iff (mem (List.mem_append_left _ hd))).1 (before d hd), first,
        _, rfl, rfl, rfl, rfl⟩
    · rintro ⟨front, e, back, fault, hs, before, first, _, rfl, rfl, -, -⟩
      have mem {d : ClassEntry} (hd : d ∈ front ++ e :: back) : d ∈ s.classes := hs ▸ hd
      exact ⟨front, e, back, .type fault, hs,
        fun d hd => (info_iff (mem (List.mem_append_left _ hd))).2 (before d hd),
        (ClassEntry.info_eq_error_iff (nested.sound (mem (by simp)))).2 ⟨fault, first, rfl⟩, rfl⟩

/-! ### Two faulty classes -/

/-- An annotation as a value of another one. -/
def nestedAnnotation : Value := .ofFields [("name", .text "B"), ("values", .dict [])]

/-- A class without faults, one with a faulty field and a faulty parameter, and one with a faulty
superclass. -/
def faultyClasses : Snapshot :=
  ⟨[⟨"app.A", none, [], [⟨"A", [("by", nestedAnnotation)]⟩], [], []⟩,
    ⟨"app.B", some "", ["app.A"], [], [⟨"id", "list[", []⟩],
      [⟨"f", none, [⟨"x", "a b", []⟩], []⟩]⟩,
    ⟨"app.C", some "~", [], [], [], []⟩]⟩

theorem index_of_texts_faultyClasses :
    faultyClasses.NestsAnnotations ∧
      faultyClasses.index "index.yaml" = .error (.fault (.invalid "index.yaml" "classes.1"
        "Invalid type reference 'list[': unbalanced brackets")) := by
  have recorded : (Part.value nestedAnnotation).fault? = none := by with_unfolding_all rfl
  have parts : faultyClasses.parts = [.value nestedAnnotation, .type "app.A", .type "list[",
    .type "a b", .type "~"] := rfl
  have nested : faultyClasses.NestsAnnotations := by
    intro v hv
    obtain rfl : v = nestedAnnotation := by simpa [parts] using hv
    exact Part.fault?_eq_none_iff.1 recorded
  have hA : IsType "app.A" := by
    refine ⟨.ofClass "app.A", ?_⟩
    rw [TypeRef.ofText, TypeRef.read_eq]
    rfl
  have hL : TypeRef.ofText "list[" = .error (.invalid "list[" .unbalanced) := by
    rw [TypeRef.ofText, TypeRef.read_eq]
    rfl
  have place : ["app.A", "list[", "a b"] = ["app.A"] ++ "list[" :: ["a b"] := rfl
  have first : FirstUnread ["app.A", "list[", "a b"] (.invalid "list[" .unbalanced) :=
    .mk place (List.forall_mem_singleton.2 hA) hL
  refine ⟨nested, ((index_of_texts "index.yaml" nested).2.1 _).2 ?_⟩
  exact ⟨[_], _, [_], _, rfl, List.forall_mem_singleton.2 (List.forall_mem_nil _), first, _, rfl,
    rfl, rfl, rfl⟩

end Snapshot

end TypeCatalog
