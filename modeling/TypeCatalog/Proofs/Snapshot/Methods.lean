import TypeCatalog.Element.Views
import TypeCatalog.Proofs.Snapshot.Parts

/-! # Snapshots — the annotations of methods and parameters

A method keeps its own annotations and those of all its parameters in one list: first its own, then
those of the first parameter, of the second, and so on.  Each is recorded with the kind of element
it belongs to and, for a parameter, with the position of the parameter.  So whoever asks for the
annotations of the method or of one parameter gets back just what was written for it, even where
two parameters have the same name or equal annotations.

* `Describes`: an annotation and the entry it was recorded for.
* `forall₂_filter_parameterAnnotations`: by induction on the parameters, filtering by a position
  gives what the parameter at that position was written with.
* `flatMap_filter_parameterAnnotations`: filtering by all positions in turn gives everything.
* `MethodEntry.keeps_of_info`: a method keeps what its entry says.
-/

namespace TypeCatalog

/-! ### Recorded annotations -/

/-- The annotation is the one that the entry describes, recorded for an element of the kind, at the
position. -/
structure Describes (kind : ElementKind) (position : Option Int) (e : AnnotationEntry)
    (a : AnnotationRecord) : Prop where
  name : a.name = e.name
  values : recordProperties e.values = .ok a.values
  target : a.target = some kind
  position : a.position = position

theorem instance?_eq_ok_iff {kind : ElementKind} {position : Option Int} {e : AnnotationEntry}
    {a : AnnotationRecord} : e.instance? kind position = .ok a ↔ Describes kind position e a := by
  rw [AnnotationEntry.instance?, map_eq_ok_iff]
  constructor
  · rintro ⟨values, hv, rfl⟩
    exact ⟨rfl, hv, rfl, rfl⟩
  · rintro ⟨hn, hv, ht, hp⟩
    refine ⟨a.values, hv, ?_⟩
    rw [← hn, ← ht, ← hp]

theorem recordedFor_eq_ok_iff {kind : ElementKind} {position : Option Int}
    {es : List AnnotationEntry} {as : List AnnotationRecord} :
    recordedFor kind position es = .ok as ↔ List.Forall₂ (Describes kind position) es as := by
  rw [recordedFor, forEach_eq_ok_iff]
  simp only [instance?_eq_ok_iff]

/-- What a recorded annotation has of its element: its kind and position. -/
theorem target_of_describes {kind : ElementKind} {position : Option Int}
    {es : List AnnotationEntry} {as : List AnnotationRecord}
    (h : List.Forall₂ (Describes kind position) es as) :
    ∀ a ∈ as, a.target = some kind ∧ a.position = position := by
  induction h with
  | nil => exact nofun
  | cons ha _ ih => exact List.forall_mem_cons.2 ⟨⟨ha.target, ha.position⟩, ih⟩

open AnnotationRecord (isAt isAt_iff)

/-! ### The parameters of a method -/

theorem parameterAnnotations_cons {i : Nat} {p : MemberEntry} {ps : List MemberEntry}
    {as : List AnnotationRecord} :
    parameterAnnotations i (p :: ps) = .ok as ↔
      ∃ own rest, List.Forall₂ (Describes .parameter (some i)) p.annotations own ∧
        parameterAnnotations (i + 1) ps = .ok rest ∧ own ++ rest = as := by
  simp only [parameterAnnotations, bind_eq_ok_iff, recordedFor_eq_ok_iff]
  constructor
  · rintro ⟨own, hown, rest, hrest, h⟩
    exact ⟨own, rest, hown, hrest, Except.ok.inj h⟩
  · rintro ⟨own, rest, hown, hrest, rfl⟩
    exact ⟨own, hown, rest, hrest, rfl⟩

/-- All are recorded for parameters, none of which comes before the first. -/
theorem position_of_parameterAnnotations {i : Nat} {ps : List MemberEntry}
    {as : List AnnotationRecord} (h : parameterAnnotations i ps = .ok as) :
    ∀ a ∈ as, a.target = some .parameter ∧ ∃ j : Nat, a.position = some (j : Int) ∧ i ≤ j := by
  induction ps generalizing i as with
  | nil =>
      obtain rfl := Except.ok.inj h
      exact nofun
  | cons p ps ih =>
      obtain ⟨own, rest, hown, hrest, rfl⟩ := parameterAnnotations_cons.1 h
      intro a ha
      rcases List.mem_append.1 ha with ha | ha
      · obtain ⟨ht, hp⟩ := target_of_describes hown a ha
        exact ⟨ht, i, hp, le_rfl⟩
      · obtain ⟨ht, j, hj, hij⟩ := ih hrest a ha
        exact ⟨ht, j, hj, by omega⟩

/-- Filtering by the first position gives the annotations of the first parameter. -/
theorem filter_isAt_first {i : Nat} {p : MemberEntry} {ps : List MemberEntry}
    {own rest : List AnnotationRecord}
    (hown : List.Forall₂ (Describes .parameter (some i)) p.annotations own)
    (hrest : parameterAnnotations (i + 1) ps = .ok rest) :
    (own ++ rest).filter (isAt i) = own := by
  have all : own.filter (isAt i) = own :=
    List.filter_eq_self.2 fun a ha => isAt_iff.2 (target_of_describes hown a ha)
  have none : rest.filter (isAt i) = [] := by
    refine List.filter_eq_nil_iff.2 fun a ha hi => ?_
    obtain ⟨-, j, hj, hij⟩ := position_of_parameterAnnotations hrest a ha
    have same := Option.some.inj (hj.symm.trans (isAt_iff.1 hi).2)
    omega
  rw [List.filter_append, all, none, List.append_nil]

/-- Filtering by a later position passes over them. -/
theorem filter_isAt_later {i j : Nat} (hij : i < j) {p : MemberEntry}
    {own : List AnnotationRecord}
    (hown : List.Forall₂ (Describes .parameter (some i)) p.annotations own)
    (rest : List AnnotationRecord) : (own ++ rest).filter (isAt j) = rest.filter (isAt j) := by
  have none : own.filter (isAt j) = [] := by
    refine List.filter_eq_nil_iff.2 fun a ha hj => ?_
    have hi := (target_of_describes hown a ha).2
    have same := Option.some.inj (hi.symm.trans (isAt_iff.1 hj).2)
    omega
  rw [List.filter_append, none, List.nil_append]

/-- **One parameter.**  Filtering by a position gives what the parameter there was written with. -/
theorem forall₂_filter_parameterAnnotations {i : Nat} {ps : List MemberEntry}
    {as : List AnnotationRecord} (h : parameterAnnotations i ps = .ok as) {k : Nat}
    {p : MemberEntry} (hp : ps[k]? = some p) :
    List.Forall₂ (Describes .parameter (some ((i + k : Nat) : Int))) p.annotations
      (as.filter (isAt ((i + k : Nat) : Int))) := by
  induction ps generalizing i k as with
  | nil => cases hp
  | cons q ps ih =>
      obtain ⟨own, rest, hown, hrest, rfl⟩ := parameterAnnotations_cons.1 h
      cases k with
      | zero =>
          obtain rfl := Option.some.inj hp
          rw [Nat.add_zero, filter_isAt_first hown hrest]
          exact hown
      | succ k =>
          rw [filter_isAt_later (by omega) hown, ← Nat.add_assoc, Nat.add_right_comm]
          exact ih hrest hp

/-- **All parameters.**  Nothing is lost or found twice when filtering by all positions in turn. -/
theorem flatMap_filter_parameterAnnotations {i : Nat} {ps : List MemberEntry}
    {as : List AnnotationRecord} (h : parameterAnnotations i ps = .ok as) :
    ((List.range' i ps.length).flatMap fun j : Nat => as.filter (isAt j)) = as := by
  induction ps generalizing i as with
  | nil =>
      obtain rfl := Except.ok.inj h
      rfl
  | cons p ps ih =>
      obtain ⟨own, rest, hown, hrest, rfl⟩ := parameterAnnotations_cons.1 h
      have later : ((List.range' (i + 1) ps.length).flatMap fun j : Nat =>
          (own ++ rest).filter (isAt j)) = rest := by
        refine Eq.trans (List.flatMap_congr fun j hj => ?_) (ih hrest)
        exact filter_isAt_later (List.mem_range'_1.1 hj).1 hown rest
      rw [List.length_cons, List.range'_succ, List.flatMap_cons, filter_isAt_first hown hrest,
        later]

/-! ### Methods -/

/-- What the entry of a method says can be read off the method: the names and the types of its
parameters, its own annotations, and those of each parameter. -/
structure MethodEntry.KeptBy (e : MethodEntry) (owner : ClassInfo) (m : MethodInfo) : Prop where
  names : m.parameterNames = e.parameters.map MemberEntry.name
  types : List.Forall₂ (fun p t => TypeRef.ofText p.type = .ok t) e.parameters m.parameterTypes
  count : m.parameterNames.length = m.parameterTypes.length
  own : List.Forall₂ (Describes .method none) e.annotations (Element.method owner m).annotations
  parameter : ∀ (i : Nat) (p : MemberEntry), e.parameters[i]? = some p →
    m.parameterName i = .ok (some p.name) ∧ m.parameter owner i = .ok (.parameter owner m i) ∧
      List.Forall₂ (Describes .parameter (some (i : Int))) p.annotations
        (Element.parameter owner m i).annotations
  whole : m.annotations = (Element.method owner m).annotations ++
    (List.range m.parameterTypes.length).flatMap fun i : Nat =>
      (Element.parameter owner m i).annotations

theorem MethodEntry.of_info {e : MethodEntry} {m : MethodInfo} (h : e.info = .ok m) :
    ∃ own parameters, List.Forall₂ (Describes .method none) e.annotations own ∧
      parameterAnnotations 0 e.parameters = .ok parameters ∧
      List.Forall₂ (fun p t => TypeRef.ofText p.type = .ok t) e.parameters m.parameterTypes ∧
      m.name = e.name ∧ m.parameterNames = e.parameters.map MemberEntry.name ∧
      m.annotations = own ++ parameters := by
  rw [info, bind_eq_ok_iff] at h
  obtain ⟨own, hown, h⟩ := h
  obtain ⟨parameters, hparameters, h⟩ := bind_eq_ok_iff.1 h
  obtain ⟨returnType, -, h⟩ := bind_eq_ok_iff.1 h
  obtain ⟨types, htypes, h⟩ := bind_eq_ok_iff.1 h
  obtain rfl := Except.ok.inj h
  simp only [forEach_eq_ok_iff, readType_eq_ok_iff] at htypes
  exact ⟨own, parameters, recordedFor_eq_ok_iff.1 hown, hparameters, htypes, rfl, rfl, rfl⟩

section

variable {es : List AnnotationEntry} {ps : List MemberEntry}
  {own parameters : List AnnotationRecord}
  (hown : List.Forall₂ (Describes .method none) es own)
  (hparameters : parameterAnnotations 0 ps = .ok parameters)

include hown hparameters

/-- Of the whole storage, those that are no parameter's are the method's own. -/
theorem filter_own : ((own ++ parameters).filter fun a => !a.isParameters) = own := by
  have all : (own.filter fun a => !a.isParameters) = own := by
    refine List.filter_eq_self.2 fun a ha => ?_
    simp [AnnotationRecord.isParameters, (target_of_describes hown a ha).1]
  have none : (parameters.filter fun a => !a.isParameters) = [] := by
    refine List.filter_eq_nil_iff.2 fun a ha => ?_
    simp [AnnotationRecord.isParameters, (position_of_parameterAnnotations hparameters a ha).1]
  rw [List.filter_append, all, none, List.append_nil]

omit hparameters in
/-- None of the method's own is found at a position. -/
theorem filter_isAt_own (i : Int) :
    (own ++ parameters).filter (isAt i) = parameters.filter (isAt i) := by
  have none : own.filter (isAt i) = [] := by
    refine List.filter_eq_nil_iff.2 fun a ha hi => ?_
    cases (isAt_iff.1 hi).1.symm.trans (target_of_describes hown a ha).1
  rw [List.filter_append, none, List.nil_append]

end

/-- **A method keeps** what its entry says. -/
theorem MethodEntry.keeps_of_info {e : MethodEntry} {m : MethodInfo} (h : e.info = .ok m)
    (owner : ClassInfo) : e.KeptBy owner m := by
  obtain ⟨own, parameters, hown, hparameters, types, -, names, storage⟩ := of_info h
  have count : m.parameterNames.length = m.parameterTypes.length := by
    rw [names, List.length_map, types.length_eq]
  have ownAnnotations : (Element.method owner m).annotations = own := by
    rw [Element.annotations, storage, filter_own hown hparameters]
  -- The method's own are at no position, so a position is looked for among the parameters' only.
  have at? (i : Int) :
      (Element.parameter owner m i).annotations = parameters.filter (isAt i) := by
    rw [Element.annotations, storage, filter_isAt_own hown]
  refine ⟨names, types, count, ownAnnotations ▸ hown, fun i p hp => ?_, ?_⟩
  · have hnames : m.parameterNames[i]? = some p.name := by
      rw [names, List.getElem?_map, hp]
      rfl
    obtain ⟨hn, hname⟩ := List.getElem?_eq_some_iff.1 hnames
    refine ⟨?_, ?_, ?_⟩
    · simp [MethodInfo.parameterName, itemAt?, hn, hname]
    · rw [MethodInfo.parameter, MethodInfo.hasParameter, if_pos]
      simpa [count] using hn
    · rw [at?]
      simpa using forall₂_filter_parameterAnnotations hparameters hp
  · have all := flatMap_filter_parameterAnnotations hparameters
    rw [types.length_eq, ← List.range_eq_range'] at all
    rw [ownAnnotations, storage]
    simp only [at?, all]

/-- **The methods of a snapshot.**  In a snapshot that has an index, every entry of a method
describes a method of its class that keeps what the entry says: every parameter has a type and a
name, the annotations of the method are those of its entry, those of each parameter are those of
the parameter's entry, all in order, and together they are all that the method stores.  Each is
recorded with the kind and the position of the element it is found for.  The class is the one in
the index unless a later entry has its name. -/
theorem keptBy_of_index {source : String} {s : Snapshot} {index : ClassIndex}
    (built : s.index source = .ok index) {c : ClassEntry} (hc : c ∈ s.classes) {k : Nat}
    {e : MethodEntry} (he : c.methods[k]? = some e) :
    ∃ owner m, c.info = .ok owner ∧ owner.methods[k]? = some m ∧ e.KeptBy owner m ∧
      (s.classes.reverse.find? (fun d => d.name == c.name) = some c →
        index.get? c.name = some owner) := by
  obtain ⟨owner, ho⟩ := Snapshot.exists_info built hc
  obtain ⟨-, -, hm⟩ := ClassEntry.members_of_info ho
  obtain ⟨m, hm, h⟩ := getElem?_of_forall₂ hm he
  exact ⟨owner, m, ho, hm, MethodEntry.keeps_of_info h owner,
    fun last => Snapshot.get?_of_last built last ho⟩

/-- A method with two parameters of one name and with one annotation, which the method has too. -/
def twinParameters : MethodEntry :=
  let a : AnnotationEntry := ⟨"A", []⟩
  ⟨"f", none, [⟨"x", "app.A", [a]⟩, ⟨"x", "app.A", [a]⟩], [a]⟩

theorem keptBy_of_index_twinParameters :
    let c : ClassEntry := ⟨"app.A", none, [], [], [], [twinParameters]⟩
    ∃ index, Snapshot.index "index.yaml" ⟨[c]⟩ = .ok index ∧ c ∈ [c] ∧
      c.methods[0]? = some twinParameters ∧
      ∃ owner m, c.info = .ok owner ∧ owner.methods[0]? = some m ∧ twinParameters.KeptBy owner m ∧
        index.get? "app.A" = some owner := by
  intro c
  have hA : TypeRef.ofText "app.A" = .ok (.ofClass "app.A") := by
    rw [TypeRef.ofText, TypeRef.read_eq]
    rfl
  have sound : firstFault (Snapshot.parts ⟨[c]⟩) = none := by
    have hp : Snapshot.parts ⟨[c]⟩ = [.type "app.A", .type "app.A"] := rfl
    simp [hp, firstFault, Part.fault?, readType_eq_ok_iff.2 hA]
  have built : ∃ index, Snapshot.index "index.yaml" ⟨[c]⟩ = .ok index := by
    rcases Snapshot.index_cases "index.yaml" ⟨[c]⟩ with ⟨-, h⟩ | ⟨f, i, hf, -⟩
    · exact h
    · cases sound.symm.trans hf
  obtain ⟨index, built⟩ := built
  have hc : c ∈ [c] := List.mem_singleton_self c
  have first : c.methods[0]? = some twinParameters := rfl
  have last : [c].reverse.find? (fun d => d.name == c.name) = some c := rfl
  obtain ⟨owner, m, ho, hm, kept, found⟩ := keptBy_of_index built hc first
  exact ⟨index, built, hc, rfl, owner, m, ho, hm, kept, found last⟩

end TypeCatalog
