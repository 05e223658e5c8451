import TypeCatalog.Command.Answer.Annotations
import TypeCatalog.Proofs.Snapshot.Methods
import TypeCatalog.Proofs.Snapshot.Recorded
import TypeCatalog.Proofs.Value.Json

/-! # Snapshots — written back

Recording an annotation changes the shape of its values: lists are fixed, and a mapping of a name
and values becomes an annotation of its own.  Writing it back undoes that at every depth, and what
has been one value of JSON is the same one again.  So where a document has an element, the
annotations that are found for the element are written as they stand in the document.

* `sameJson_of_recordValue`: by induction on what is recorded, it is written back.
* `classAt?`, `elementAt?`: the entry that a document has for a class, and for an element of it.
* `elementOf_finds`: its annotations are those of the element that is found in the class.
-/

namespace TypeCatalog

open Command (Answer Misuse)
open Value (IsJson SameJson at? field?)

/-! ### Values -/

theorem writtenItems_eq (xs : List Value) : writtenItems xs = xs.map writtenValue := by
  induction xs with
  | nil => rfl
  | cons x xs ih => rw [writtenItems, ih, List.map_cons]

theorem writtenNamed_eq (vs : Entries String Value) :
    writtenNamed vs = vs.map fun p => (.text p.1, writtenValue p.2) := by
  induction vs with
  | nil => rfl
  | cons p vs ih =>
      obtain ⟨n, v⟩ := p
      rw [writtenNamed, ih, List.map_cons]

/-- What is neither a tuple nor an annotation is written as it is. -/
theorem writtenValue_of_isJson {v : Value} (h : v.IsJson) : writtenValue v = v := by
  cases h <;> rw [writtenValue] <;> simp

/-- Properties in step are written with the same keys, and values that are the same. -/
theorem sameJson_of_inStep {vs ws : Entries String Value}
    (h : InStep (fun v w => SameJson v (writtenValue w)) vs ws) :
    SameJson (.ofFields vs) (.dict (writtenNamed ws)) := by
  have texts := congrArg (List.map Value.text) h.names
  have values : List.Forall₂ SameJson _ ((ws.map Prod.snd).map writtenValue) :=
    List.forall₂_map_right_iff.2 h.values
  rw [List.map_map, List.map_map] at texts
  rw [List.map_map] at values
  rw [writtenNamed_eq]
  refine .dict (.refl _) ?_ ?_
  · rw [List.map_map, List.map_map]
    exact texts
  · rw [List.map_map, List.map_map]
    exact values

/-- In JSON a mapping from texts is what its values by name are. -/
theorem HasValues.of_isJson {v : Value} {vs : Entries String Value} (h : HasValues v vs)
    (hv : v.IsJson) : v = .ofFields vs := by
  obtain ⟨es, fields, hes, read, rfl⟩ := h
  obtain rfl := hv.eq_dict hes
  have keys (e : Value × Value) (he : e ∈ es) : ∃ s, e.1 = .text s := by
    cases hv with
    | dict keys _ => exact keys e he
  clear hes hv
  rw [Checked.byName_of_texts keys]
  refine congrArg Value.dict ?_
  induction read with
  | nil => rfl
  | @cons e p es fields hep _ ih =>
      obtain ⟨⟨s, hs⟩, keys⟩ := List.forall_mem_cons.1 keys
      obtain ⟨name, same⟩ := hep
      rw [hs] at name
      obtain rfl := Option.some.inj name
      exact congrArg₂ List.cons (Prod.ext hs same) (ih keys)

/-- In JSON an annotation is a mapping of a text and of its values by name. -/
theorem IsAnnotation.of_isJson {v : Value} {name : String} {vs : Entries String Value}
    (h : IsAnnotation v name vs) (hv : v.IsJson) :
    ∃ es, AnnotationShape es (.text name) (.ofFields vs) ∧ v = .dict es := by
  obtain ⟨hes, shape, named, mapping⟩ := h
  obtain rfl := hv.eq_dict hes
  obtain rfl := (hv.of_field? shape.field?_name).eq_text named
  obtain rfl := mapping.of_isJson (hv.of_field? shape.field?_values)
  exact ⟨_, shape, rfl⟩

/-- **A recorded value is written back** as the same value of JSON. -/
theorem sameJson_of_recordValue (v : Value) {w : Value} (hv : v.IsJson)
    (h : recordValue v = .ok w) : SameJson v (writtenValue w) := by
  refine recordValue_induction (P := fun v w => v.IsJson → SameJson v (writtenValue w))
    (fun v xs ys list items hv => ?_) (fun v name vs ws annotated values hv => ?_)
    (fun v _ hv => ?_) h hv
  · obtain rfl := hv.opened.symm.trans list
    rw [writtenValue, writtenItems_eq]
    exact .list (List.forall₂_map_right_iff.2
      (forall₂_of_forall_mem items (Value.isJson_list_iff.1 hv)))
  · obtain ⟨es, shape, rfl⟩ := annotated.of_isJson hv
    have json := Value.isJson_ofFields_iff.1 (hv.of_field? shape.field?_values)
    have same := sameJson_of_inStep (values.of_forall_mem json)
    rw [writtenValue]
    -- Only a mapping with the shape of an annotation comes back in another order, its name first.
    exact .dict shape.perm rfl (.cons (.refl _) (.cons same .nil))
  · rw [writtenValue_of_isJson hv]
    exact .refl v

/-! ### Annotations -/

/-- What is printed is the annotation that an entry of a document writes: its name, and its values,
none if it has no values. -/
def PrintedAs (entry printed : Value) : Prop :=
  ∃ name values, at? ["name"] entry = some name ∧
    SameJson ((at? ["values"] entry).getD (.dict [])) values ∧
    printed = .ofFields [("name", name), ("values", values)]

theorem PrintedAs.isJson {entry printed : Value} (h : PrintedAs entry printed)
    (he : entry.IsJson) : printed.IsJson := by
  obtain ⟨name, values, hn, hv, rfl⟩ := h
  refine Value.isJson_ofFields_iff.2
    (List.forall_mem_cons.2 ⟨he.of_at? hn, List.forall_mem_singleton.2 ?_⟩)
  refine IsJson.of_same ?_ hv
  cases hvs : at? ["values"] entry with
  | none => exact .dict nofun nofun
  | some v => exact he.of_at? hvs

/-- A value of a document that passes a check. -/
def IsEntry {α : Type} (check : Value → Checked α) (v : Value) (a : α) : Prop :=
  v.IsJson ∧ check v = .valid a

/-- An annotation is printed as its entry writes it. -/
theorem printedAs_of_describes {kind : ElementKind} {position : Option Int} {v : Value}
    {e : AnnotationEntry} {a : AnnotationRecord} (hv : IsEntry AnnotationEntry.check v e)
    (h : Describes kind position e a) : PrintedAs v a.written := by
  obtain ⟨es, nameAt, hes, hn, named, values⟩ := AnnotationEntry.of_check hv.2
  obtain rfl := hv.1.eq_dict hes
  obtain rfl := (hv.1.of_field? hn).eq_text named
  have given : (field? "values" es).getD (.dict []) = .ofFields e.values ∧
      (Value.ofFields e.values).IsJson := by
    rcases values with ⟨hf, none⟩ | ⟨valuesAt, hf, mapping⟩
    · rw [hf, none]
      exact ⟨rfl, .dict nofun nofun⟩
    · have json := hv.1.of_field? hf
      obtain rfl := mapping.of_isJson json
      rw [hf]
      exact ⟨rfl, json⟩
  refine ⟨.text e.name, .dict (writtenNamed a.values), Value.at?_text.trans hn, ?_, ?_⟩
  · rw [Value.at?_text, given.1]
    refine sameJson_of_inStep (InStep.of_forall_mem ?_ (Value.isJson_ofFields_iff.1 given.2))
    exact (recordProperties_eq_ok_iff.1 h.values).imp
      fun v w hw hv => sameJson_of_recordValue v hv hw
  · rw [← h.name]
    rfl

/-- Annotations with the entries that write them. -/
def Prints (entries : List Value) (as : List AnnotationRecord) : Prop :=
  List.Forall₂ (fun v a => v.IsJson ∧ PrintedAs v a.written) entries as

theorem prints_of_describes {kind : ElementKind} {position : Option Int} {vs : List Value}
    {es : List AnnotationEntry} {as : List AnnotationRecord}
    (hvs : List.Forall₂ (IsEntry AnnotationEntry.check) vs es)
    (has : List.Forall₂ (Describes kind position) es as) : Prints vs as :=
  (forall₂_comp hvs has).imp fun _ _ ⟨_, hv, ha⟩ => ⟨hv.1, printedAs_of_describes hv ha⟩

/-! ### Documents -/

/-- The items of the list that a mapping has at a field. -/
def itemsAt (name : String) (v : Value) : List Value :=
  match at? [name] v with
  | some (.list xs) => xs
  | _               => []

/-- The mapping has the text `name` as its name. -/
def isNamed (name : String) (v : Value) : Bool :=
  match at? ["name"] v with
  | some (.text s) => s == name
  | _              => false

/-- The first entry with a name in the list at a field. -/
def firstAt? (list name : String) (v : Value) : Option Value :=
  (itemsAt list v).find? (isNamed name)

/-- The entry of a class: the last one that has its name. -/
def classAt? (name : String) (doc : Value) : Option Value :=
  (itemsAt "classes" doc).reverse.find? (isNamed name)

/-- The entry of the parameter that a method has at a position. -/
def parameterAt? (m : Value) (position : Int) : Option Value :=
  if 0 ≤ position then (itemsAt "parameters" m)[position.toNat]? else none

/-- The entry of an element of a class.  Fields go before methods, but only methods have
parameters. -/
def elementAt? (c : Value) : (member : Option String) → (param : Option Int) → Option Value
  | none,        none   => some c
  | none,        some _ => none
  | some member, none   => (firstAt? "fields" member c).or (firstAt? "methods" member c)
  | some member, some i => (firstAt? "methods" member c).bind fun m => parameterAt? m i

theorem isNamed_eq {name s : String} {v : Value} (h : at? ["name"] v = some (.text s)) :
    isNamed name v = (s == name) := by
  rw [isNamed, h]

section

variable {v : Value} {es : List (Value × Value)}

/-- A name that passes is there as a text. -/
theorem at?_name {nameAt : Value} {name : String} (hv : v.IsJson) (hes : v.entries? = some es)
    (hn : field? "name" es = some nameAt) (named : nameAt.asText? = some name) :
    at? ["name"] v = some (.text name) := by
  obtain rfl := hv.eq_dict hes
  obtain rfl := (hv.of_field? hn).eq_text named
  exact Value.at?_text.trans hn

/-- What passes as a list of parts has a part for each item. -/
theorem forall₂_itemsAt {α : Type} {check : Value → Checked α} {name : String} {as : List α}
    (hv : v.IsJson) (hes : v.entries? = some es)
    (h : Checked.fieldOr es name [] (Checked.list check) = .valid as) :
    List.Forall₂ (IsEntry check) (itemsAt name v) as := by
  obtain rfl := hv.eq_dict hes
  rw [itemsAt, Value.at?_text]
  rcases Checked.fieldOr_eq_valid_iff.1 h with ⟨hf, rfl⟩ | ⟨w, hf, hw⟩
  · rw [hf]
    exact .nil
  · obtain ⟨xs, hxs, items⟩ := Checked.list_eq_valid_iff.1 hw
    have json := hv.of_field? hf
    obtain rfl := json.eq_list hxs
    rw [hf]
    exact (List.forall₂_and_left _ _).2 ⟨Value.isJson_list_iff.1 json, items⟩

end

theorem MemberEntry.of_check {kind : String} {v : Value} {e : MemberEntry}
    (h : IsEntry (check kind) v e) :
    at? ["name"] v = some (.text e.name) ∧
      List.Forall₂ (IsEntry AnnotationEntry.check) (itemsAt "annotations" v) e.annotations := by
  obtain ⟨hv, h⟩ := h
  simp only [check, Checked.andThen_eq_valid_iff, Checked.record_eq_valid_iff,
    Checked.map_eq_valid_iff, Checked.and_eq_valid_iff, Checked.field_eq_valid_iff,
    Checked.text_eq_valid_iff] at h
  obtain ⟨es, hes, ⟨_, _, as, _⟩, ⟨⟨_, hn, named⟩, _, ha, -⟩, rfl⟩ := h
  exact ⟨at?_name hv hes hn named, forall₂_itemsAt hv hes ha⟩

theorem MethodEntry.of_check {v : Value} {e : MethodEntry} (h : IsEntry check v e) :
    at? ["name"] v = some (.text e.name) ∧
      List.Forall₂ (IsEntry (MemberEntry.check "ParameterEntry")) (itemsAt "parameters" v)
        e.parameters ∧
      List.Forall₂ (IsEntry AnnotationEntry.check) (itemsAt "annotations" v) e.annotations := by
  obtain ⟨hv, h⟩ := h
  simp only [check, Checked.andThen_eq_valid_iff, Checked.record_eq_valid_iff,
    Checked.map_eq_valid_iff, Checked.and_eq_valid_iff, Checked.field_eq_valid_iff,
    Checked.text_eq_valid_iff] at h
  obtain ⟨es, hes, ⟨_, _, ps, as, _⟩, ⟨⟨_, hn, named⟩, _, hp, ha, -⟩, rfl⟩ := h
  exact ⟨at?_name hv hes hn named, forall₂_itemsAt hv hes hp, forall₂_itemsAt hv hes ha⟩

theorem ClassEntry.of_check {v : Value} {e : ClassEntry} (h : IsEntry check v e) :
    at? ["name"] v = some (.text e.name) ∧
      List.Forall₂ (IsEntry AnnotationEntry.check) (itemsAt "annotations" v) e.annotations ∧
      List.Forall₂ (IsEntry (MemberEntry.check "FieldEntry")) (itemsAt "fields" v) e.fields ∧
      List.Forall₂ (IsEntry MethodEntry.check) (itemsAt "methods" v) e.methods := by
  obtain ⟨hv, h⟩ := h
  simp only [check, Checked.andThen_eq_valid_iff, Checked.record_eq_valid_iff,
    Checked.map_eq_valid_iff, Checked.and_eq_valid_iff, Checked.field_eq_valid_iff,
    Checked.text_eq_valid_iff] at h
  obtain ⟨es, hes, ⟨_, _, _, as, fs, ms, _⟩, ⟨⟨_, hn, named⟩, _, _, ha, hf, hm, -⟩, rfl⟩ := h
  exact ⟨at?_name hv hes hn named, forall₂_itemsAt hv hes ha, forall₂_itemsAt hv hes hf,
    forall₂_itemsAt hv hes hm⟩

theorem itemsAt_orEmpty (name : String) (v : Value) :
    itemsAt name (Stored.orEmpty v) = itemsAt name v := by
  unfold Stored.orEmpty
  split
  · rfl
  · rename_i h
    cases v with
    | dict es =>
        obtain rfl : es = [] := by simpa [Value.isTruthy] using h
        rfl
    | knot k => exact absurd rfl h
    | _ => rfl

theorem Value.IsJson.orEmpty {v : Value} (h : v.IsJson) : (Stored.orEmpty v).IsJson := by
  unfold Stored.orEmpty
  split
  · exact h
  · exact .dict nofun nofun

/-- A list of classes is a snapshot if they are. -/
theorem Snapshot.check_of_classes {xs : List Value} {cs : List ClassEntry}
    (h : List.Forall₂ (fun x c => ClassEntry.check x = .valid c) xs cs) :
    check (.ofFields [("classes", .list xs)]) = .valid ⟨cs⟩ := by
  simp only [check, Checked.andThen_eq_valid_iff, Checked.record_eq_valid_iff,
    Checked.map_eq_valid_iff, Checked.and_eq_valid_iff, Checked.fieldOr_eq_valid_iff,
    Checked.list_eq_valid_iff]
  refine ⟨_, rfl, (cs, ()), ⟨.inr ⟨.list xs, Value.field?_cons_self, xs, rfl, h⟩, ?_⟩, rfl⟩
  exact Checked.onlyFields_eq_valid_iff.2 (by simp)

/-- A document that has an index has the entries of a snapshot. -/
theorem Snapshot.of_ofDocument {path : String} {doc : Value} {index : ClassIndex}
    (hd : doc.IsJson) (h : ofDocument path doc = .ok index) :
    ∃ s : Snapshot, List.Forall₂ (IsEntry ClassEntry.check) (itemsAt "classes" doc) s.classes ∧
      s.index path = .ok index := by
  obtain ⟨s, hc, built⟩ := ofDocument_eq_ok_iff.1 h
  refine ⟨s, ?_, built⟩
  simp only [check, Checked.andThen_eq_valid_iff, Checked.record_eq_valid_iff,
    Checked.map_eq_valid_iff, Checked.and_eq_valid_iff] at hc
  obtain ⟨es, hes, ⟨cs, _⟩, ⟨hcs, -⟩, rfl⟩ := hc
  rw [← itemsAt_orEmpty]
  exact forall₂_itemsAt hd.orEmpty hes hcs

/-- The class in the index is the one that the entry in the document describes. -/
theorem get?_of_classAt? {path : String} {doc : Value} {index : ClassIndex} (hd : doc.IsJson)
    (h : Snapshot.ofDocument path doc = .ok index) (name : String) :
    Option.Rel (fun v info => ∃ e, IsEntry ClassEntry.check v e ∧ e.info = .ok info)
      (classAt? name doc) (index.get? name) := by
  obtain ⟨s, hs, built⟩ := Snapshot.of_ofDocument hd h
  obtain ⟨classes, hc, rfl⟩ := Snapshot.index_eq_ok_iff.1 built
  -- The index keeps the last class of a name, and the document is searched from its end.
  rw [ClassIndex.get?_ofClasses]
  refine find?_of_forall₂ (List.forall₂_reverse_iff.2 (forall₂_comp hs hc)) ?_
  rintro v info ⟨e, hv, he⟩
  rw [isNamed_eq (ClassEntry.of_check hv).1, (ClassEntry.of_info he).1]

/-! ### Elements -/

/-- What the document has for an element, if anything, prints the annotations of the element that is
found; where it has nothing, none is found. -/
inductive Finds : Option Value → Except Answer Element → Prop where
  | element {entry : Value} {e : Element} (h : Prints (itemsAt "annotations" entry) e.annotations) :
      Finds (some entry) (.ok e)
  | refused (f : Command.Fault) : Finds none (.error (.refused f))
  | misused (m : Misuse) : Finds none (.error (.misused m))

/-- The entry of a field in the document. -/
structure IsField (v : Value) (f : FieldInfo) : Prop where
  name : at? ["name"] v = some (.text f.name)
  own : Prints (itemsAt "annotations" v) f.annotations

/-- The entry of a method in the document. -/
structure IsMethod (owner : ClassInfo) (v : Value) (m : MethodInfo) : Prop where
  name : at? ["name"] v = some (.text m.name)
  own : Prints (itemsAt "annotations" v) (Element.method owner m).annotations
  parameter (i : Int) : Finds (parameterAt? v i) (Answer.parameterOf owner m i)

theorem isField_of_fieldInfo {v : Value} {e : MemberEntry} {f : FieldInfo}
    (hv : IsEntry (MemberEntry.check "FieldEntry") v e) (hf : e.fieldInfo = .ok f) :
    IsField v f := by
  rw [MemberEntry.fieldInfo, bind_eq_ok_iff] at hf
  obtain ⟨type, -, hf⟩ := hf
  obtain ⟨annotations, ha, hf⟩ := bind_eq_ok_iff.1 hf
  obtain rfl := Except.ok.inj hf
  obtain ⟨name, own⟩ := MemberEntry.of_check hv
  exact ⟨name, prints_of_describes own (recordedFor_eq_ok_iff.1 ha)⟩

theorem isMethod_of_info {v : Value} {e : MethodEntry} {m : MethodInfo}
    (hv : IsEntry MethodEntry.check v e) (hm : e.info = .ok m) (owner : ClassInfo) :
    IsMethod owner v m := by
  obtain ⟨name, parameters, own⟩ := MethodEntry.of_check hv
  obtain ⟨-, -, -, -, -, sameName, -⟩ := MethodEntry.of_info hm
  have kept := MethodEntry.keeps_of_info hm owner
  have count : (itemsAt "parameters" v).length = m.parameterTypes.length :=
    parameters.length_eq.trans kept.types.length_eq
  refine ⟨sameName ▸ name, prints_of_describes own kept.own, fun i => ?_⟩
  rw [parameterAt?, Answer.parameterOf]
  -- There is an entry at a position just where the method has a type for it.
  by_cases hi : m.hasParameter i = true
  · have bounds : 0 ≤ i ∧ i < m.parameterTypes.length := by simpa [MethodInfo.hasParameter] using hi
    obtain ⟨k, rfl⟩ := Int.eq_ofNat_of_zero_le bounds.1
    have hk : k < (itemsAt "parameters" v).length := by omega
    obtain ⟨p, hp, hw⟩ := getElem?_of_forall₂ parameters (List.getElem?_eq_getElem hk)
    rw [if_pos hi, if_pos bounds.1, Int.toNat_natCast, List.getElem?_eq_getElem hk]
    exact .element (prints_of_describes (MemberEntry.of_check hw).2 (kept.parameter k p hp).2.2)
  · have outside : (if 0 ≤ i then (itemsAt "parameters" v)[i.toNat]? else none) = none := by
      split
      · rw [List.getElem?_eq_none_iff, count]
        simp only [MethodInfo.hasParameter, Bool.and_eq_true, decide_eq_true_eq] at hi
        omega
      · rfl
    rw [if_neg hi, outside]
    exact .refused _

section

variable {v : Value} {c : ClassEntry} {info : ClassInfo} (hv : IsEntry ClassEntry.check v c)
  (hi : c.info = .ok info)

include hv hi

theorem field?_of_firstAt? (name : String) :
    Option.Rel IsField (firstAt? "fields" name v) (info.field? name) := by
  obtain ⟨-, -, entries, -⟩ := ClassEntry.of_check hv
  obtain ⟨-, fields, -⟩ := ClassEntry.members_of_info hi
  have both : List.Forall₂ IsField (itemsAt "fields" v) info.fields :=
    (forall₂_comp entries fields).imp fun _ _ ⟨_, hw, hf⟩ => isField_of_fieldInfo hw hf
  exact find?_of_forall₂ both fun w f h => isNamed_eq h.name

theorem method?_of_firstAt? (name : String) :
    Option.Rel (IsMethod info) (firstAt? "methods" name v) (info.method? name) := by
  obtain ⟨-, -, -, entries⟩ := ClassEntry.of_check hv
  obtain ⟨-, -, methods⟩ := ClassEntry.members_of_info hi
  have both : List.Forall₂ (IsMethod info) (itemsAt "methods" v) info.methods :=
    (forall₂_comp entries methods).imp fun _ _ ⟨_, hw, hm⟩ => isMethod_of_info hw hm info
  exact find?_of_forall₂ both fun w m h => isNamed_eq h.name

/-- **Elements.**  What the document has for an element prints the annotations of the element. -/
theorem elementOf_finds (member : Option String) (param : Option Int) :
    Finds (elementAt? v member param) (Answer.elementOf info member param) := by
  cases member with
  | none =>
      cases param with
      | none =>
          obtain ⟨-, own, -⟩ := ClassEntry.of_check hv
          obtain ⟨annotations, -⟩ := ClassEntry.members_of_info hi
          exact .element (prints_of_describes own (recordedFor_eq_ok_iff.1 annotations))
      | some i => exact .misused _
  | some name =>
      have field := field?_of_firstAt? hv hi name
      have method := method?_of_firstAt? hv hi name
      cases param with
      | none =>
          -- A field goes before a method of its name, in the document as in the class.
          rw [elementAt?, Answer.elementOf]
          generalize firstAt? "fields" name v = f? at field ⊢
          generalize info.field? name = i? at field ⊢
          cases field with
          | some h => exact .element h.own
          | none =>
              unfold Answer.methodOf
              rw [Option.none_or]
              generalize firstAt? "methods" name v = e? at method ⊢
              generalize info.method? name = m? at method ⊢
              cases method with
              | some h => exact .element h.own
              | none => exact .refused _
      | some i =>
          change Finds ((firstAt? "methods" name v).bind fun m => parameterAt? m i)
            (Answer.methodOf info name (some i))
          unfold Answer.methodOf
          generalize firstAt? "methods" name v = e? at method ⊢
          generalize info.method? name = m? at method ⊢
          cases method with
          | some h => exact h.parameter i
          | none => exact .refused _

end

end TypeCatalog
