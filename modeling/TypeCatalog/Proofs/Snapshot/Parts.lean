import TypeCatalog.Proofs.Outcome
import TypeCatalog.Proofs.TypeRef.Nodes
import TypeCatalog.Snapshot.Load

/-! # Snapshots — the parts of an entry

Whatever is wrong with a class entry is wrong with one of its parts: a text that is to be read as a
type, or a value of an annotation.  `ClassEntry.parts` lists them in the order in which they are
read.  Reading stops at the first fault, so the fault of an entry is that of its first faulty part,
and the fault of a snapshot that of the first faulty part of all its entries.

* `ClassEntry.fault_info`: an entry has the fault of its first faulty part.
* `Snapshot.index_eq_ok_iff`: a snapshot has an index where all its entries describe classes.
* `Snapshot.index_eq_error_iff`: it fails as the first entry that describes none.
* `Snapshot.index_cases`: the index of a snapshot, by its first faulty part.
-/

namespace TypeCatalog

/-! ### One outcome for each item -/

section

variable {ε α β : Type}

theorem faultOf_forEach (f : α → Except ε β) (as : List α) :
    faultOf (forEach f as) = as.findSome? fun a => faultOf (f a) := by
  induction as with
  | nil => rfl
  | cons a as ih =>
      rw [forEach]
      cases h : f a with
      | ok b => simp [h, ih]
      | error e => simp [h]

theorem forEach_eq_ok_iff {f : α → Except ε β} {as : List α} {bs : List β} :
    forEach f as = .ok bs ↔ List.Forall₂ (fun a b => f a = .ok b) as bs := by
  induction as generalizing bs with
  | nil => simp [forEach, eq_comm]
  | cons a as ih =>
      unfold forEach
      cases h : f a with
      | ok b =>
          rw [forall₂_cons_of_ok h, map_eq_ok_iff]
          simp only [ih]
      | error e => simpa using not_forall₂_cons_of_error h

theorem exists_of_forEach_error {f : α → Except ε β} {as : List α} {e : ε}
    (h : forEach f as = .error e) : ∃ a ∈ as, f a = .error e := by
  rw [← faultOf_eq_some_iff, faultOf_forEach] at h
  obtain ⟨a, ha, he⟩ := List.exists_of_findSome?_eq_some h
  exact ⟨a, ha, faultOf_eq_some_iff.1 he⟩

/-- Two functions come to the same for all items, unless one comes to `e`, if they come to the same
for each item, unless the one comes to `e`. -/
theorem forEach_of_ne {f g : α → Except ε β} {as : List α} {e : ε}
    (h : forEach f as ≠ .error e) (same : ∀ a ∈ as, f a ≠ .error e → g a = f a) :
    forEach g as = forEach f as := by
  induction as with
  | nil => rfl
  | cons a as ih =>
      obtain ⟨ha, has⟩ := List.forall_mem_cons.1 same
      rw [forEach] at h
      rw [forEach, forEach]
      cases hf : f a with
      | error e' =>
          rw [hf] at h ha
          have ne : e' ≠ e := fun same => h (congrArg Except.error same)
          rw [ha (mt Except.error.inj ne)]
      | ok b =>
          rw [hf] at h ha
          rw [ha nofun]
          dsimp only at h ⊢
          rw [ih (fun he => h (map_eq_error_iff.2 he)) has]

end

/-- The first fault along concatenated lists is that of the first list that has one. -/
theorem findSome?_flatMap {α β γ : Type} (f : β → Option γ) (g : α → List β) (as : List α) :
    (as.flatMap g).findSome? f = as.findSome? fun a => (g a).findSome? f := by
  induction as with
  | nil => rfl
  | cons a as ih =>
      rw [List.flatMap_cons, List.findSome?_append, ih, List.findSome?_cons]
      cases (g a).findSome? f <;> rfl

/-! ### Parts -/

/-- What an entry is read from: the text of a type, or a value of an annotation. -/
inductive Part where
  | type (text : String)
  | value (v : Value)

namespace Part

/-- The fault of reading a part. -/
def fault? : Part → Option EntryFault
  | .type text => faultOf (readType text)
  | .value v   => faultOf (recordValue v)

end Part

/-- The first fault of several parts. -/
def firstFault (parts : List Part) : Option EntryFault := parts.findSome? Part.fault?

theorem firstFault_append (ps qs : List Part) :
    firstFault (ps ++ qs) = (firstFault ps).or (firstFault qs) :=
  List.findSome?_append

theorem firstFault_flatMap {α : Type} (g : α → List Part) (as : List α) :
    firstFault (as.flatMap g) = as.findSome? fun a => firstFault (g a) :=
  findSome?_flatMap _ _ _

def AnnotationEntry.parts (e : AnnotationEntry) : List Part := e.values.map fun p => .value p.2

/-- The parts of annotations. -/
def annotationParts (es : List AnnotationEntry) : List Part := es.flatMap AnnotationEntry.parts

/-- A field: its type, then its annotations. -/
def MemberEntry.fieldParts (e : MemberEntry) : List Part :=
  .type e.type :: annotationParts e.annotations

/-- A method: its own annotations and those of its parameters, then the type it returns and those
of its parameters. -/
def MethodEntry.parts (e : MethodEntry) : List Part :=
  annotationParts e.annotations
    ++ e.parameters.flatMap (fun p => annotationParts p.annotations)
    ++ e.returnType.toList.map .type
    ++ e.parameters.map fun p => .type p.type

/-- The text of the superclass; an empty one is none. -/
def ClassEntry.superclassText? (e : ClassEntry) : Option String := e.superclass.filter (· ≠ "")

/-- A class: its superclass and its further bases, its annotations, its fields, its methods. -/
def ClassEntry.parts (e : ClassEntry) : List Part :=
  e.superclassText?.toList.map .type
    ++ e.interfaces.map .type
    ++ annotationParts e.annotations
    ++ e.fields.flatMap MemberEntry.fieldParts
    ++ e.methods.flatMap MethodEntry.parts

/-- The parts of all classes, in order. -/
def Snapshot.parts (s : Snapshot) : List Part := s.classes.flatMap ClassEntry.parts

/-! ### The fault of an entry -/

/-- The reference that a text stands for has a canonical name. -/
theorem exists_canonicalName_of_ofText {text : String} {r : TypeRef}
    (h : TypeRef.ofText text = .ok r) : ∃ name, r.canonicalName = .ok name :=
  (TypeRef.shaped_of_ofText h).exists_canonicalName

theorem readType_eq_ok_iff {text : String} {r : TypeRef} :
    readType text = .ok r ↔ TypeRef.ofText text = .ok r := by
  rw [readType]
  cases TypeRef.ofText text <;> simp [Except.mapError]

theorem readName_eq_ok_iff {text name : String} :
    readName text = .ok name ↔
      ∃ r, TypeRef.ofText text = .ok r ∧ r.canonicalName = .ok name := by
  unfold readName
  cases h : TypeRef.ofText text with
  | error fault => simp [readType, h, Except.mapError, Except.bind]
  | ok r => cases hn : r.canonicalName <;> simp [readType, h, hn, Except.mapError, Except.bind]

/-- A name is at fault where its text is. -/
theorem faultOf_readName (text : String) : faultOf (readName text) = faultOf (readType text) := by
  unfold readName
  cases h : readType text with
  | error fault => rfl
  | ok r =>
      obtain ⟨name, hn⟩ := exists_canonicalName_of_ofText (readType_eq_ok_iff.1 h)
      simp [Except.bind, hn, Except.mapError]

theorem faultOf_recordProperties (vs : Entries String Value) :
    faultOf (recordProperties vs) = firstFault (vs.map fun p => .value p.2) := by
  rw [recordProperties, forValues, faultOf_forEach, firstFault, List.findSome?_map]
  simp only [faultOf_map]
  rfl

theorem faultOf_recordedFor (kind : ElementKind) (position : Option Int)
    (es : List AnnotationEntry) :
    faultOf (recordedFor kind position es) = firstFault (annotationParts es) := by
  rw [recordedFor, faultOf_forEach, annotationParts, firstFault_flatMap]
  congr 1
  funext e
  rw [AnnotationEntry.instance?, faultOf_map, faultOf_recordProperties, AnnotationEntry.parts]

theorem faultOf_parameterAnnotations (i : Nat) (ps : List MemberEntry) :
    faultOf (parameterAnnotations i ps)
      = firstFault (ps.flatMap fun p => annotationParts p.annotations) := by
  induction ps generalizing i with
  | nil => rfl
  | cons p ps ih =>
      rw [parameterAnnotations, List.flatMap_cons, firstFault_append,
        ← faultOf_recordedFor .parameter (some i) p.annotations]
      refine faultOf_bind fun own => ?_
      rw [← ih (i + 1)]
      exact faultOf_map (parameterAnnotations (i + 1) ps) (own ++ ·)

theorem faultOf_readReturn (text? : Option String) :
    faultOf (readReturn text?) = firstFault (text?.toList.map .type) := by
  cases text? with
  | none => rfl
  | some text =>
      cases h : readType text <;> simp [readReturn, h, firstFault, Part.fault?, Except.map]

theorem faultOf_types (ps : List MemberEntry) :
    faultOf (forEach (fun p => readType p.type) ps)
      = firstFault (ps.map fun p => .type p.type) := by
  rw [faultOf_forEach, firstFault, List.findSome?_map]
  rfl

theorem MemberEntry.fault_fieldInfo (e : MemberEntry) :
    faultOf e.fieldInfo = firstFault e.fieldParts := by
  have ht : firstFault [.type e.type] = faultOf (readType e.type) := by
    cases h : readType e.type <;> simp [firstFault, Part.fault?, h]
  rw [fieldParts, ← List.singleton_append, firstFault_append, ht,
    ← faultOf_recordedFor .field none e.annotations]
  exact faultOf_bind fun type => faultOf_map (recordedFor .field none e.annotations) _

theorem MethodEntry.fault_info (e : MethodEntry) : faultOf e.info = firstFault e.parts := by
  simp only [parts, firstFault_append, Option.or_assoc]
  rw [← faultOf_recordedFor .method none, ← faultOf_parameterAnnotations 0, ← faultOf_readReturn,
    ← faultOf_types]
  refine faultOf_bind fun own => faultOf_bind fun parameters => faultOf_bind fun returnType => ?_
  exact faultOf_map (forEach (fun p => readType p.type) e.parameters) _

theorem faultOf_readSuperclass (e : ClassEntry) :
    faultOf (readSuperclass e.superclass) = firstFault (e.superclassText?.toList.map .type) := by
  rw [ClassEntry.superclassText?]
  cases e.superclass with
  | none => rfl
  | some text =>
      by_cases h : text = ""
      · subst h
        rfl
      · cases ht : readType text <;>
          simp [readSuperclass, h, ht, firstFault, Part.fault?, Except.map, Option.filter]

theorem faultOf_interfaces (texts : List String) :
    faultOf (forEach readName texts) = firstFault (texts.map .type) := by
  rw [faultOf_forEach, firstFault, List.findSome?_map]
  simp only [faultOf_readName]
  rfl

/-- **An entry** has the fault of its first faulty part. -/
theorem ClassEntry.fault_info (e : ClassEntry) : faultOf e.info = firstFault e.parts := by
  simp only [parts, firstFault_append, Option.or_assoc]
  rw [← faultOf_readSuperclass, ← faultOf_interfaces, ← faultOf_recordedFor .classType none,
    firstFault_flatMap, firstFault_flatMap]
  simp only [← MemberEntry.fault_fieldInfo, ← MethodEntry.fault_info]
  rw [← faultOf_forEach, ← faultOf_forEach]
  refine faultOf_bind fun superclass => faultOf_bind fun interfaces =>
    faultOf_bind fun annotations => faultOf_bind fun fields => ?_
  exact faultOf_map (forEach MethodEntry.info e.methods) _

/-! ### What an entry describes -/

/-- The name, the superclass and the further bases of the class an entry describes. -/
theorem ClassEntry.of_info {e : ClassEntry} {c : ClassInfo} (h : e.info = .ok c) :
    c.name = e.name ∧ readSuperclass e.superclass = .ok c.superclass ∧
      forEach readName e.interfaces = .ok c.interfaces := by
  rw [info, bind_eq_ok_iff] at h
  obtain ⟨superclass, hs, h⟩ := h
  obtain ⟨interfaces, hi, h⟩ := bind_eq_ok_iff.1 h
  obtain ⟨annotations, -, h⟩ := bind_eq_ok_iff.1 h
  obtain ⟨fields, -, h⟩ := bind_eq_ok_iff.1 h
  obtain ⟨methods, -, h⟩ := bind_eq_ok_iff.1 h
  obtain rfl := Except.ok.inj h
  exact ⟨rfl, hs, hi⟩

/-- The annotations, the fields and the methods of the class an entry describes. -/
theorem ClassEntry.members_of_info {e : ClassEntry} {c : ClassInfo} (h : e.info = .ok c) :
    recordedFor .classType none e.annotations = .ok c.annotations ∧
      List.Forall₂ (fun f i => f.fieldInfo = .ok i) e.fields c.fields ∧
      List.Forall₂ (fun m i => m.info = .ok i) e.methods c.methods := by
  rw [info, bind_eq_ok_iff] at h
  obtain ⟨superclass, -, h⟩ := h
  obtain ⟨interfaces, -, h⟩ := bind_eq_ok_iff.1 h
  obtain ⟨annotations, ha, h⟩ := bind_eq_ok_iff.1 h
  obtain ⟨fields, hf, h⟩ := bind_eq_ok_iff.1 h
  obtain ⟨methods, hm, h⟩ := bind_eq_ok_iff.1 h
  obtain rfl := Except.ok.inj h
  exact ⟨ha, forEach_eq_ok_iff.1 hf, forEach_eq_ok_iff.1 hm⟩

namespace Snapshot

theorem classesFrom_eq_ok_iff {source : String} {i : Nat} {es : List ClassEntry}
    {cs : List ClassInfo} :
    classesFrom source i es = .ok cs ↔ List.Forall₂ (fun e c => e.info = .ok c) es cs := by
  induction es generalizing i cs with
  | nil => simp [classesFrom, eq_comm]
  | cons e es ih =>
      unfold classesFrom
      cases h : e.info with
      | ok c =>
          rw [forall₂_cons_of_ok h, map_eq_ok_iff]
          simp only [ih]
      | error fault => simpa using not_forall₂_cons_of_error h

/-- **The index of a snapshot** holds what its entries describe. -/
theorem index_eq_ok_iff {source : String} {s : Snapshot} {index : ClassIndex} :
    s.index source = .ok index ↔
      ∃ classes, List.Forall₂ (fun e c => e.info = .ok c) s.classes classes ∧
        .ofClasses classes = index := by
  simp [Snapshot.index, map_eq_ok_iff, classesFrom_eq_ok_iff]

/-- A document has an index if it is a snapshot that has one. -/
theorem ofDocument_eq_ok_iff {path : String} {doc : Value} {index : ClassIndex} :
    ofDocument path doc = .ok index ↔
      ∃ s, check (Stored.orEmpty doc) = .valid s ∧ s.index path = .ok index := by
  unfold ofDocument
  cases check (Stored.orEmpty doc) <;> simp

/-- In a snapshot that has an index, every entry describes a class. -/
theorem exists_info {source : String} {s : Snapshot} {index : ClassIndex}
    (built : s.index source = .ok index) {e : ClassEntry} (he : e ∈ s.classes) :
    ∃ info, e.info = .ok info := by
  obtain ⟨classes, hc, -⟩ := index_eq_ok_iff.1 built
  obtain ⟨info, -, hi⟩ := exists_of_forall₂ hc he
  exact ⟨info, hi⟩

/-- The index has under a name what the last entry with that name describes. -/
theorem get?_of_index {source : String} {s : Snapshot} {index : ClassIndex}
    (built : s.index source = .ok index) (name : String) :
    Option.Rel (fun e c => e.info = .ok c) (s.classes.reverse.find? fun e => e.name == name)
      (index.get? name) := by
  obtain ⟨classes, hc, rfl⟩ := index_eq_ok_iff.1 built
  rw [ClassIndex.get?_ofClasses]
  refine find?_of_forall₂ (List.forall₂_reverse_iff.2 hc) fun e c h => ?_
  rw [(ClassEntry.of_info h).1]

/-- The last entry with a name describes what the index has under it. -/
theorem get?_of_last {source : String} {s : Snapshot} {index : ClassIndex}
    (built : s.index source = .ok index) {name : String} {e : ClassEntry} {info : ClassInfo}
    (last : s.classes.reverse.find? (fun f => f.name == name) = some e) (h : e.info = .ok info) :
    index.get? name = some info := by
  have found := get?_of_index built name
  rw [last] at found
  generalize index.get? name = got at found ⊢
  cases found with
  | some hc => exact congrArg some (Except.ok.inj (hc.symm.trans h))

/-- Entries that describe classes are passed over. -/
theorem classesFrom_append (source : String) (i : Nat) {front : List ClassEntry}
    (h : ∀ d ∈ front, ∃ c, d.info = .ok c) (back : List ClassEntry) :
    ∃ cs, classesFrom source i (front ++ back)
      = (classesFrom source (i + front.length) back).map (cs ++ ·) := by
  induction front generalizing i with
  | nil =>
      refine ⟨[], ?_⟩
      cases hb : classesFrom source i back <;> simp [hb, Except.map]
  | cons d front ih =>
      obtain ⟨⟨c, hc⟩, h⟩ := List.forall_mem_cons.1 h
      obtain ⟨cs, hcs⟩ := ih (i + 1) h
      refine ⟨c :: cs, ?_⟩
      rw [List.cons_append, classesFrom, hc, hcs, List.length_cons, Nat.add_assoc, Nat.add_comm 1]
      cases classesFrom source (i + (front.length + 1)) back <;> rfl

/-- Reading entries fails at the first one that fails. -/
theorem classesFrom_of_first (source : String) (i : Nat) {front back : List ClassEntry}
    {e : ClassEntry} {f : EntryFault} (h : ∀ d ∈ front, ∃ c, d.info = .ok c)
    (he : e.info = .error f) :
    classesFrom source i (front ++ e :: back) = .error (.ofEntry source (i + front.length) f) := by
  obtain ⟨cs, hcs⟩ := classesFrom_append source i h (e :: back)
  rw [hcs, classesFrom, he]
  rfl

theorem exists_classesFrom (source : String) (i : Nat) {es : List ClassEntry}
    (h : ∀ e ∈ es, ∃ c, e.info = .ok c) : ∃ cs, classesFrom source i es = .ok cs := by
  obtain ⟨cs, hcs⟩ := classesFrom_append source i h []
  rw [List.append_nil] at hcs
  exact ⟨_, hcs⟩

/-- Either all entries describe classes, or there is a first one that does not. -/
theorem first_entry_cases (es : List ClassEntry) :
    (firstFault (es.flatMap ClassEntry.parts) = none ∧ ∀ e ∈ es, ∃ c, e.info = .ok c) ∨
      ∃ front e back f, firstFault (es.flatMap ClassEntry.parts) = some f ∧
        es = front ++ e :: back ∧ (∀ d ∈ front, ∃ c, d.info = .ok c) ∧ e.info = .error f := by
  simp only [firstFault_flatMap, ← ClassEntry.fault_info]
  cases h : es.findSome? fun e => faultOf e.info with
  | none =>
      simp only [List.findSome?_eq_none_iff, faultOf_eq_none_iff] at h
      exact .inl ⟨rfl, h⟩
  | some f =>
      obtain ⟨front, e, back, hs, he, before⟩ := List.findSome?_eq_some_iff.1 h
      exact .inr ⟨front, e, back, f, rfl, hs, fun d hd => faultOf_eq_none_iff.1 (before d hd),
        faultOf_eq_some_iff.1 he⟩

/-- **The index of a snapshot fails** as the first entry that fails, at its position. -/
theorem index_eq_error_iff {source : String} {s : Snapshot} {failure : Failure} :
    s.index source = .error failure ↔
      ∃ front e back f, s.classes = front ++ e :: back ∧ (∀ d ∈ front, ∃ c, d.info = .ok c) ∧
        e.info = .error f ∧ failure = .ofEntry source front.length f := by
  have first {front back : List ClassEntry} {e : ClassEntry} {f : EntryFault}
      (hs : s.classes = front ++ e :: back) (before : ∀ d ∈ front, ∃ c, d.info = .ok c)
      (he : e.info = .error f) :
      s.index source = .error (.ofEntry source front.length f) := by
    rw [Snapshot.index, hs, classesFrom_of_first source 0 before he, Nat.zero_add]
    rfl
  constructor
  · intro h
    rcases first_entry_cases s.classes with ⟨-, all⟩ | ⟨front, e, back, f, -, hs, before, he⟩
    · obtain ⟨cs, hcs⟩ := exists_classesFrom source 0 all
      rw [Snapshot.index, hcs] at h
      cases h
    · exact ⟨front, e, back, f, hs, before, he,
        Except.error.inj (h.symm.trans (first hs before he))⟩
  · rintro ⟨front, e, back, f, hs, before, he, rfl⟩
    exact first hs before he

/-- **The fault of a snapshot** is that of its first faulty part; without one there is an index. -/
theorem index_cases (source : String) (s : Snapshot) :
    (firstFault s.parts = none ∧ ∃ index, s.index source = .ok index) ∨
      ∃ f i, firstFault s.parts = some f ∧ s.index source = .error (.ofEntry source i f) := by
  rcases first_entry_cases s.classes with ⟨hs, all⟩ | ⟨front, e, back, f, hf, hs, before, he⟩
  · obtain ⟨cs, hcs⟩ := exists_classesFrom source 0 all
    exact .inl ⟨hs, .ofClasses cs, by rw [Snapshot.index, hcs]; rfl⟩
  · exact .inr ⟨f, front.length, hf, index_eq_error_iff.2 ⟨front, e, back, f, hs, before, he, rfl⟩⟩

end Snapshot

end TypeCatalog
