import TypeCatalog.Proofs.Snapshot.Methods
import TypeCatalog.Proofs.Snapshot.Recorded
import TypeCatalog.Proofs.Value.Within

/-! # Snapshots — what recording passes over

An index is meant to hold fixed values only.  Recording fixes a list and takes a mapping that has
the shape of an annotation for one, and it goes on inside of them.  But there are other containers,
which it leaves as they are: a set, any other mapping, one that holds itself among them, and a
tuple, which documents have for pairs.  So a recorded value is fixed just if all that recording has
passed over is, which a set or a mapping never is, and whatever list, set or mapping is still there
has been inside of what was passed over.

* `PassedOver`: what recording comes to and leaves as it is.
* `within_recordValue_iff`: by induction on what is recorded, where its lists, sets and mappings
  come from.
* `Snapshot.load_leaves`: the same of all annotations of an index.
-/

namespace TypeCatalog

open Relation (ReflTransGen)
open Value (IsFixed IsOpen Within)

/-! ### Values -/

/-- Recording a value comes to the value `u` and leaves it as it is.  It comes to the items of lists
and to the values of annotations. -/
structure PassedOver (u v : Value) : Prop where
  way : ReflTransGen Inner v u
  stays : Stays u

section

variable {u v w x : Value} {xs : List Value}

theorem passedOver_iff : PassedOver u v ↔ (Stays v ∧ u = v) ∨ ∃ x, Inner v x ∧ PassedOver u x := by
  constructor
  · rintro ⟨way, stays⟩
    rcases way.cases_head with rfl | ⟨x, hx, way⟩
    · exact .inl ⟨stays, rfl⟩
    · exact .inr ⟨x, hx, way, stays⟩
  · rintro (⟨stays, rfl⟩ | ⟨x, hx, way, stays⟩)
    · exact ⟨.refl, stays⟩
    · exact ⟨.head hx way, stays⟩

theorem passedOver_list_iff (list : v.opened = .list xs) :
    PassedOver u v ↔ ∃ x ∈ xs, PassedOver u x := by
  rw [passedOver_iff, or_iff_right fun h => h.1.noList xs list]
  simp only [inner_list_iff list]

theorem passedOver_annotation_iff {name : String} {vs : Entries String Value}
    (annotated : IsAnnotation v name vs) : PassedOver u v ↔ ∃ p ∈ vs, PassedOver u p.2 := by
  rw [passedOver_iff, or_iff_right fun h => h.1.unshaped annotated.isShaped]
  simp only [inner_annotation_iff annotated]
  constructor
  · rintro ⟨_, ⟨p, hp, rfl⟩, h⟩
    exact ⟨p, hp, h⟩
  · rintro ⟨p, hp, h⟩
    exact ⟨_, ⟨p, hp, rfl⟩, h⟩

theorem passedOver_iff_of_stays (hv : Stays v) : PassedOver u v ↔ u = v := by
  rw [passedOver_iff, or_iff_left fun ⟨x, hx, _⟩ => hv.not_inner hx]
  exact and_iff_right hv

/-- **Lists, sets and mappings** in a recorded value are those inside of what was passed over. -/
theorem within_recordValue_iff (h : recordValue v = .ok w) (hx : x.IsOpen) :
    (∃ u, PassedOver u v ∧ Within x u) ↔ Within x w := by
  refine recordValue_induction (P := fun v w => (∃ u, PassedOver u v ∧ Within x u) ↔ Within x w)
    (fun v xs ys list items => ?_) (fun v name vs ws annotated values => ?_) (fun v hv => ?_) h
  · rw [hx.within_tuple_iff, ← exists_mem_iff_of_forall₂ items]
    simp only [passedOver_list_iff list]
    constructor
    · rintro ⟨u, ⟨y, hy, hu⟩, h⟩
      exact ⟨y, hy, u, hu, h⟩
    · rintro ⟨y, hy, u, hu, h⟩
      exact ⟨u, ⟨y, hy, hu⟩, h⟩
  · rw [hx.within_nested_iff, ← values.exists_iff]
    simp only [passedOver_annotation_iff annotated]
    constructor
    · rintro ⟨u, ⟨p, hp, hu⟩, h⟩
      exact ⟨p, hp, u, hu, h⟩
    · rintro ⟨p, hp, u, hu, h⟩
      exact ⟨u, ⟨p, hp, hu⟩, h⟩
  · simp only [passedOver_iff_of_stays hv, exists_eq_left]

/-- What recording a value as another one leaves as it was. -/
structure Leaves (v w : Value) : Prop where
  fixed_iff : w.IsFixed ↔ ∀ u, PassedOver u v → u.IsFixed
  within_iff : ∀ x : Value, x.IsOpen → (Within x w ↔ ∃ u, PassedOver u v ∧ Within x u)

/-- **A recorded value is fixed** just if all that was passed over is. -/
theorem leaves_of_recordValue (h : recordValue v = .ok w) : Leaves v w := by
  refine ⟨?_, fun x hx => (within_recordValue_iff h hx).symm⟩
  simp only [Value.isFixed_iff]
  constructor
  · intro hw u hu x hxu hx
    exact hw x ((within_recordValue_iff h hx).1 ⟨u, hu, hxu⟩) hx
  · intro hv x hxw hx
    obtain ⟨u, hu, hxu⟩ := (within_recordValue_iff h hx).2 hxw
    exact hv u hu x hxu hx

end

/-! ### The annotations of a class -/

/-- The annotations of a method and of its parameters. -/
def MethodEntry.allAnnotations (e : MethodEntry) : List AnnotationEntry :=
  e.annotations ++ e.parameters.flatMap MemberEntry.annotations

/-- The annotations of a class and of its members. -/
def ClassEntry.allAnnotations (e : ClassEntry) : List AnnotationEntry :=
  e.annotations ++ e.fields.flatMap MemberEntry.annotations
    ++ e.methods.flatMap MethodEntry.allAnnotations

/-- The annotations that are recorded for a class and for its members. -/
def ClassInfo.allAnnotations (c : ClassInfo) : List AnnotationRecord :=
  c.annotations ++ c.fields.flatMap FieldInfo.annotations
    ++ c.methods.flatMap MethodInfo.annotations

/-- An annotation is recorded for an entry: the name is the same, and so are the names of the
properties, whose values are what their values were recorded as. -/
structure RecordedAs (e : AnnotationEntry) (a : AnnotationRecord) : Prop where
  name : a.name = e.name
  values : InStep (fun v w => recordValue v = .ok w) e.values a.values

theorem recordedAs_of_describes {kind : ElementKind} {position : Option Int}
    {es : List AnnotationEntry} {as : List AnnotationRecord}
    (h : List.Forall₂ (Describes kind position) es as) : List.Forall₂ RecordedAs es as :=
  h.imp fun _ _ h => ⟨h.name, recordProperties_eq_ok_iff.1 h.values⟩

theorem recordedAs_of_parameterAnnotations {i : Nat} {ps : List MemberEntry}
    {as : List AnnotationRecord} (h : parameterAnnotations i ps = .ok as) :
    List.Forall₂ RecordedAs (ps.flatMap MemberEntry.annotations) as := by
  induction ps generalizing i as with
  | nil =>
      obtain rfl := Except.ok.inj h
      exact .nil
  | cons p ps ih =>
      obtain ⟨own, rest, hown, hrest, rfl⟩ := parameterAnnotations_cons.1 h
      exact List.rel_append (recordedAs_of_describes hown) (ih hrest)

theorem MemberEntry.recordedAs_of_fieldInfo {e : MemberEntry} {f : FieldInfo}
    (h : e.fieldInfo = .ok f) : List.Forall₂ RecordedAs e.annotations f.annotations := by
  rw [fieldInfo, bind_eq_ok_iff] at h
  obtain ⟨type, -, h⟩ := h
  obtain ⟨annotations, ha, h⟩ := bind_eq_ok_iff.1 h
  obtain rfl := Except.ok.inj h
  exact recordedAs_of_describes (recordedFor_eq_ok_iff.1 ha)

theorem MethodEntry.recordedAs_of_info {e : MethodEntry} {m : MethodInfo} (h : e.info = .ok m) :
    List.Forall₂ RecordedAs e.allAnnotations m.annotations := by
  obtain ⟨own, parameters, hown, hparameters, -, -, -, all⟩ := of_info h
  rw [all]
  exact List.rel_append (recordedAs_of_describes hown)
    (recordedAs_of_parameterAnnotations hparameters)

/-- **All annotations** of an entry are recorded, one by one. -/
theorem ClassEntry.recordedAs_of_info {e : ClassEntry} {c : ClassInfo} (h : e.info = .ok c) :
    List.Forall₂ RecordedAs e.allAnnotations c.allAnnotations := by
  obtain ⟨own, fields, methods⟩ := members_of_info h
  refine List.rel_append (List.rel_append ?_ ?_) ?_
  · exact recordedAs_of_describes (recordedFor_eq_ok_iff.1 own)
  · exact List.rel_flatMap fields fun _ _ h => MemberEntry.recordedAs_of_fieldInfo h
  · exact List.rel_flatMap methods fun _ _ h => MethodEntry.recordedAs_of_info h

/-! ### Loading -/

namespace Snapshot

/-- An index is loaded from a document that is a snapshot. -/
theorem of_load {path : String} {stored : Stored} {index : ClassIndex}
    (loads : (load path stored).result = .ok index) :
    ∃ doc s, stored = .document doc ∧ check (Stored.orEmpty doc) = .valid s ∧
      s.index path = .ok index := by
  cases stored with
  | document doc =>
      obtain ⟨s, valid, built⟩ := ofDocument_eq_ok_iff.1 loads
      exact ⟨doc, s, rfl, valid, built⟩
  | _ => cases loads

/-- The entry of a class: the last one that has its name. -/
def last? (s : Snapshot) (name : String) : Option ClassEntry :=
  s.classes.reverse.find? fun e => e.name == name

/-- A class in the index is the one that the last entry with its name describes. -/
theorem exists_last? {source name : String} {s : Snapshot} {index : ClassIndex} {c : ClassInfo}
    (built : s.index source = .ok index) (found : index.get? name = some c) :
    ∃ e ∈ s.classes, s.last? name = some e ∧ e.info = .ok c := by
  have last := get?_of_index built name
  rw [found, ← last?] at last
  cases he : s.last? name with
  | none =>
      rw [he] at last
      cases last
  | some e =>
      rw [he] at last
      cases last with
      | some info => exact ⟨e, List.mem_reverse.1 (List.mem_of_find?_eq_some he), rfl, info⟩

/-- **The annotations of an index.**  An index is loaded from a document that is a snapshot.  For a
class in the index, the annotations recorded for it and its members are those of the last entry with
its name, in order and under the same names.  A recorded value is fixed just if everything is that
recording has come to and left as it is: a set never is, nor a mapping without the shape of an
annotation, and a tuple may hold anything.  The lists, the sets and the mappings in a recorded
value, those with the shape of an annotation among them, are just those that are inside of such a
part. -/
theorem load_leaves {path : String} {stored : Stored} {index : ClassIndex}
    (loads : (load path stored).result = .ok index) :
    ∃ doc s, stored = .document doc ∧ check (Stored.orEmpty doc) = .valid s ∧
      ∀ name, Option.Rel (fun e c => List.Forall₂
          (fun e a => a.name = e.name ∧ InStep Leaves e.values a.values)
          e.allAnnotations c.allAnnotations)
        (s.last? name) (index.get? name) := by
  obtain ⟨doc, s, file, valid, built⟩ := of_load loads
  refine ⟨doc, s, file, valid, fun name => ?_⟩
  have found := get?_of_index built name
  rw [← last?] at found
  generalize s.last? name = e? at found ⊢
  generalize index.get? name = c? at found ⊢
  cases found with
  | none => exact .none
  | some h =>
      exact .some ((ClassEntry.recordedAs_of_info h).imp fun _ _ h =>
        ⟨h.name, h.values.imp fun _ _ => leaves_of_recordValue⟩)

/-! ### A mapping that is passed over -/

/-- A mapping with a list, and with a mapping that has the shape of an annotation. -/
def limits : Value :=
  .ofFields [("range", .list [.int 1, .int 2]),
    ("by", .ofFields [("name", .text "B"), ("values", .dict [])])]

/-- An annotation with a list that has the mapping as its item. -/
def limitedEntry : AnnotationEntry := ⟨"A", [("all", .list [limits])]⟩

/-- A class with the annotation. -/
def limitedClass : Value :=
  .ofFields [("classes", .list [.ofFields [("name", .text "app.A"), ("annotations", .list [.ofFields
    [("name", .text "A"), ("values", .ofFields [("all", .list [limits])])]])]])]

/-- What is recorded for the class. -/
def limitedInfo : ClassInfo :=
  ⟨"app.A", none, [], [⟨"A", [("all", .tuple [limits])], some .classType, none⟩], [], []⟩

theorem check_limitedClass :
    check (Stored.orEmpty limitedClass) =
      .valid ⟨[⟨"app.A", none, [], [limitedEntry], [], []⟩]⟩ := by
  with_unfolding_all rfl

theorem load_limitedClass :
    (load "index.yaml" (.document limitedClass)).result = .ok (.ofClasses [limitedInfo]) := by
  have info : ClassEntry.info ⟨"app.A", none, [], [limitedEntry], [], []⟩ = .ok limitedInfo := by
    with_unfolding_all rfl
  refine ofDocument_eq_ok_iff.2 ⟨_, check_limitedClass, index_eq_ok_iff.2 ⟨[limitedInfo], ?_, rfl⟩⟩
  exact .cons info .nil

theorem load_leaves_limitedClass :
    (load "index.yaml" (.document limitedClass)).result = .ok (.ofClasses [limitedInfo]) ∧
      List.Forall₂ (fun e a => a.name = e.name ∧ InStep Leaves e.values a.values) [limitedEntry]
        limitedInfo.allAnnotations := by
  refine ⟨load_limitedClass, ?_⟩
  obtain ⟨doc, s, file, valid, leaves⟩ := load_leaves load_limitedClass
  obtain rfl := Stored.document.inj file
  obtain rfl := Checked.valid.inj (check_limitedClass.symm.trans valid)
  have found := leaves "app.A"
  have entry : last? ⟨[⟨"app.A", none, [], [limitedEntry], [], []⟩]⟩ "app.A"
      = some ⟨"app.A", none, [], [limitedEntry], [], []⟩ := rfl
  have class? : (ClassIndex.ofClasses [limitedInfo]).get? "app.A" = some limitedInfo := rfl
  rw [entry, class?] at found
  cases found with
  | some h => exact h

/-- Loading can record a value with a list in it, and with a mapping that has the shape of an
annotation. -/
theorem not_load_fixed :
    ∃ index c a v, (load "index.yaml" (.document limitedClass)).result = .ok index ∧
      index.get? "app.A" = some c ∧ a ∈ c.allAnnotations ∧ ("all", v) ∈ a.values ∧ ¬ v.IsFixed ∧
      Within (.list [.int 1, .int 2]) v ∧
      ∃ es name values, AnnotationShape es name values ∧ Within (.dict es) v := by
  have inside {x : Value} (h : Within x limits) : Within x (.tuple [limits]) :=
    .tuple (List.mem_singleton_self _) h
  have range : Within (.list [.int 1, .int 2]) limits := .of_field? Value.field?_cons_self
  have shaped : Within (.ofFields [("name", .text "B"), ("values", .dict [])]) limits :=
    .dict (List.mem_cons_of_mem _ (List.mem_singleton_self _)) .self
  refine ⟨_, limitedInfo, _, .tuple [limits], load_limitedClass, rfl, List.mem_singleton_self _,
    List.mem_singleton_self _, ?_, inside range, _, _, _, .nameFirst _ _, inside shaped⟩
  exact fun fixed => (IsOpen.list _).not_isFixed (fixed.of_within (inside range))

end Snapshot

end TypeCatalog
