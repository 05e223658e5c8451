import TypeCatalog.Proofs.Live.Loading
import TypeCatalog.Proofs.Snapshot.Runs
import TypeCatalog.Proofs.Subtype.Tiers

/-! # Subtypes — when a test fails

A test is about canonical names, so it fails where a reference has none: the subject, the target, or
a superclass that the walk comes to.  The walk comes to it if nothing settles the question before:
neither that the names are the same, nor that the target is among the further bases of the subject
or above it.

Nothing else makes a test fail.  Live classes are loaded where the index leaves a question open;
what cannot be loaded, imported or compared counts as a no.

* `finding_malformed_iff`: what the index makes of a question is a fault exactly where the question
  is `Malformed`.
* `outcome_of_contained`: what live classes make of it is an answer, unless their code escapes.
* `test_malformed_iff`: so a test fails where the question is malformed, and answers elsewhere.
-/

namespace TypeCatalog

namespace TypeRef

/-- **Why a reference has no name**: an array in it has no component. -/
theorem within_of_canonicalName {r : TypeRef} {fault : TypeFault}
    (h : r.canonicalName = .error fault) :
    ∃ s, Within s r ∧ s.kind = .array ∧ s.component = none ∧
      fault = .invalid s.name .noComponent := by
  fun_induction canonicalName r with
  | case1 name component bound as ih =>
      obtain ⟨s, hs, hsr⟩ := ih h
      exact ⟨s, .component rfl hs, hsr⟩
  | case2 name bound as =>
      obtain rfl := Except.error.inj h
      exact ⟨_, .here, rfl, rfl, rfl⟩
  | case3 name component bound as ih =>
      obtain ⟨s, hs, hsr⟩ := ih h
      exact ⟨s, .bound rfl hs, hsr⟩
  | case4 | case5 => cases h

end TypeRef

namespace Subtype

open Live (ClassSource Escape)

variable {σ Class : Type}

/-! ### The index tier -/

/-- A question is malformed: its subject or its target has no name, or the subject is indexed, the
question is not settled, and the chain from the subject breaks. -/
inductive Malformed (reflexive : Bool) (index : ClassIndex) (subject target : TypeRef)
    (fault : TypeFault) : Prop where
  | subject (h : subject.canonicalName = .error fault) :
      Malformed reflexive index subject target fault
  | target {s : String} (hs : subject.canonicalName = .ok s)
      (h : target.canonicalName = .error fault) :
      Malformed reflexive index subject target fault
  | superclass {s t : String} {info : ClassInfo} (hs : subject.canonicalName = .ok s)
      (ht : target.canonicalName = .ok t) (apart : ¬ SameName reflexive s t)
      (hi : index.get? s = some info) (miss : ¬ Matches index s info t)
      (h : Breaks index s fault) : Malformed reflexive index subject target fault

section

variable {reflexive : Bool} {index : ClassIndex} {subject target : TypeRef} {fault : TypeFault}

theorem Ending.finding_eq_malformed_iff {s t : String} {e : Ending} :
    e.finding s t = .malformed fault ↔ e = .malformed fault := by
  cases e <;> simp [Ending.finding]

/-- Two names give a fault exactly where the walk between them does. -/
theorem askNames_malformed_iff {s t : String} :
    (askNames reflexive index s t).finding = .malformed fault ↔
      ¬ SameName reflexive s t ∧ ∃ info, index.get? s = some info ∧
        (walk index info t).ending = .malformed fault := by
  by_cases same : SameName reflexive s t
  · rw [finding_of_settles (.same same)]
    simp [same]
  · cases hi : index.get? s with
    | none =>
        rw [finding_of_open (.subject same hi)]
        simp
    | some info =>
        rw [finding_of_indexed same hi, Ending.finding_eq_malformed_iff]
        simp [same]

/-- A malformed question is a fault. -/
theorem Malformed.finding_eq {classes : List ClassInfo}
    (h : Malformed reflexive (.ofClasses classes) subject target fault) :
    (ask reflexive (.ofClasses classes) subject target).finding = .malformed fault := by
  cases h with
  | subject h => rw [ask, h]
  | target hs h => rw [ask, hs, h]
  | @superclass s t info hs ht apart hi miss breaks =>
      have tells := walk_tells hi (name_of_get?_ofClasses hi) t
      have ended := (tells.malformed_iff fault).2 ⟨miss, breaks⟩
      rw [ask, hs, ht]
      exact askNames_malformed_iff.2 ⟨apart, info, hi, ended⟩

/-- A fault comes from a malformed question. -/
theorem malformed_of_finding {classes : List ClassInfo}
    (h : (ask reflexive (.ofClasses classes) subject target).finding = .malformed fault) :
    Malformed reflexive (.ofClasses classes) subject target fault := by
  cases hs : subject.canonicalName with
  | error fault' =>
      rw [ask, hs] at h
      obtain rfl := Finding.malformed.inj h
      exact .subject hs
  | ok s =>
      cases ht : target.canonicalName with
      | error fault' =>
          rw [ask, hs, ht] at h
          obtain rfl := Finding.malformed.inj h
          exact .target hs ht
      | ok t =>
          rw [ask, hs, ht] at h
          obtain ⟨apart, info, hi, ended⟩ := askNames_malformed_iff.1 h
          have tells := walk_tells hi (name_of_get?_ofClasses hi) t
          obtain ⟨miss, breaks⟩ := (tells.malformed_iff fault).1 ended
          exact .superclass hs ht apart hi miss breaks

/-- **The index tier fails** exactly where the question is malformed. -/
theorem finding_malformed_iff (classes : List ClassInfo) :
    (ask reflexive (.ofClasses classes) subject target).finding = .malformed fault ↔
      Malformed reflexive (.ofClasses classes) subject target fault :=
  ⟨malformed_of_finding, Malformed.finding_eq⟩

end

/-! ### Both tiers -/

section

variable {source : ClassSource σ Class} {state : σ}

/-- Consulting live classes comes to an answer, unless their code escapes. -/
theorem Consults.exists_answer {s t : String} {o : Outcome} {queries : List (Query Class)}
    (h : Consults source s t state o queries)
    (contained : ∀ name s e, (source.load name s).result ≠ .escaped e) : ∃ b, o = .answer b := by
  cases h with
  | compared | noSubject | noTarget => exact ⟨_, rfl⟩
  | subjectEscapes hs => exact absurd hs (contained _ _ _)
  | targetEscapes hs ht => exact absurd ht (contained _ _ _)

/-- **A test answers or fails**, and it fails where the index tier does. -/
theorem outcome_of_contained (options : Options) (index : ClassIndex) (subject target : TypeRef)
    (state : σ) (contained : ∀ name s e, (source.load name s).result ≠ .escaped e) :
    (∃ b, (test options source index subject target state).outcome = .answer b ∧
        ∀ fault, (ask options.reflexive index subject target).finding ≠ .malformed fault) ∨
      ∃ fault, (test options source index subject target state).outcome = .malformed fault ∧
        (ask options.reflexive index subject target).finding = .malformed fault := by
  cases hf : (ask options.reflexive index subject target).finding with
  | malformed fault => exact .inr ⟨fault, by simp [test, hf, Test.settled], rfl⟩
  | answer b => exact .inl ⟨b, by simp [test, hf, Test.settled], by simp⟩
  | undecided s t gap =>
      by_cases hb : options.fallback = true
      · obtain ⟨b, ha⟩ := (consult_consults source s t gap state).exists_answer contained
        exact .inl ⟨b, by simpa [test, hf, hb] using ha, by simp⟩
      · exact .inl ⟨false, by simp [test, hf, hb, Test.settled], by simp⟩

end

/-! ### Malformed questions -/

section

variable {index : ClassIndex} {subject target : TypeRef} {fault : TypeFault}

/-- What makes a question malformed is reported as an invalid reference. -/
theorem Malformed.report {reflexive : Bool} (h : Malformed reflexive index subject target fault) :
    fault.report.family = .typeModel ∧ fault.report.code = .invalidTypeRef := by
  obtain ⟨r, hr⟩ : ∃ r : TypeRef, r.canonicalName = .error fault := by
    cases h with
    | subject h => exact ⟨subject, h⟩
    | target _ h => exact ⟨target, h⟩
    | superclass _ _ _ _ _ h =>
        obtain ⟨b, info, r, -, -, -, hr⟩ := h
        exact ⟨r, hr⟩
  obtain ⟨s, -, -, -, rfl⟩ := TypeRef.within_of_canonicalName hr
  exact ⟨rfl, rfl⟩

/-- A question about references that have been read is not malformed, in an index whose superclasses
have been read. -/
theorem not_malformed_of_read {classes : List ClassInfo} {a b : String} {reflexive : Bool}
    (hs : TypeRef.ofText a = .ok subject) (ht : TypeRef.ofText b = .ok target)
    (read : ∀ info ∈ classes, ∀ r, info.superclass = some r → ∃ text, TypeRef.ofText text = .ok r) :
    ¬ Malformed reflexive (.ofClasses classes) subject target fault := by
  have named {text : String} {r : TypeRef} (hr : TypeRef.ofText text = .ok r) :
      r.canonicalName ≠ .error fault := by
    obtain ⟨name, hn⟩ := exists_canonicalName_of_ofText hr
    simp [hn]
  rintro (h | ⟨-, h⟩ | ⟨-, -, -, -, -, b, info, r, -, hi, hr, h⟩)
  · exact named hs h
  · exact named ht h
  · obtain ⟨text, hr⟩ := read info (mem_of_get?_ofClasses hi) r hr
    exact named hr h

end

/-- An index that has been loaded holds classes whose superclasses have been read. -/
theorem exists_classes_of_load {path : String} {stored : Stored} {index : ClassIndex}
    (h : (Snapshot.load path stored).result = .ok index) :
    ∃ classes, ClassIndex.ofClasses classes = index ∧ ∀ info ∈ classes, ∀ r,
      info.superclass = some r → ∃ text, TypeRef.ofText text = .ok r := by
  cases stored with
  | absent | unreachable | directory | closed | undecodable | unreadable | unusable | endless =>
      cases h
  | document v =>
      have h : Snapshot.ofDocument path v = .ok index := h
      unfold Snapshot.ofDocument at h
      split at h
      · obtain ⟨classes, hc, rfl⟩ := Snapshot.index_eq_ok_iff.1 h
        refine ⟨classes, rfl, fun info hi r hr => ?_⟩
        obtain ⟨e, -, he⟩ := exists_of_forall₂ hc.flip hi
        exact exists_text_of_superclass he hr
      · cases h
      · cases h

/-- **When a test fails.**  Let no code escape from the process.  In every index, a test fails with
a fault exactly where the question is malformed for that fault, and answers otherwise; the fault is
that of an invalid reference.  So a test of references that have been read answers in every index
whose superclasses have been read, as those of a loaded index have, whatever the process does. -/
theorem test_malformed_iff {Obj : Type} {p : Live.Process σ Obj Class} (contained : p.Contained)
    (policy : Live.Policy) (options : Options) (state : σ) (subject target : TypeRef) :
    let outcome (index : ClassIndex) :=
      (test options (p.source policy) index subject target state).outcome
    (∀ classes : List ClassInfo,
      let index := ClassIndex.ofClasses classes
      (∀ fault, outcome index = .malformed fault ↔
        Malformed options.reflexive index subject target fault) ∧
      ((∀ fault, ¬ Malformed options.reflexive index subject target fault) →
        ∃ b, outcome index = .answer b) ∧
      ∀ fault, outcome index = .malformed fault →
        fault.report.family = .typeModel ∧ fault.report.code = .invalidTypeRef) ∧
    ∀ a b, TypeRef.ofText a = .ok subject → TypeRef.ofText b = .ok target →
      (∀ classes : List ClassInfo, (∀ info ∈ classes, ∀ r, info.superclass = some r →
          ∃ text, TypeRef.ofText text = .ok r) →
        ∃ b, outcome (.ofClasses classes) = .answer b) ∧
      ∀ (path : String) (stored : Stored) (index : ClassIndex),
        (Snapshot.load path stored).result = .ok index → ∃ b, outcome index = .answer b := by
  intro outcome
  have loads (name : String) (s : σ) (e : Escape) :
      ((p.source policy).load name s).result ≠ .escaped e := Live.load_ne_escaped contained name s e
  have ended (index : ClassIndex) :=
    outcome_of_contained options index subject target state loads
  have fails (classes : List ClassInfo) (fault : TypeFault) :
      outcome (.ofClasses classes) = .malformed fault ↔
        Malformed options.reflexive (.ofClasses classes) subject target fault := by
    rw [← finding_malformed_iff]
    rcases ended (.ofClasses classes) with ⟨b, ho, hf⟩ | ⟨fault', ho, hf⟩
    · have ho : outcome (.ofClasses classes) = .answer b := ho
      rw [ho]
      exact iff_of_false nofun (hf fault)
    · have ho : outcome (.ofClasses classes) = .malformed fault' := ho
      rw [ho, hf, Outcome.malformed.injEq, Finding.malformed.injEq]
  have answers (classes : List ClassInfo)
      (h : ∀ fault, ¬ Malformed options.reflexive (.ofClasses classes) subject target fault) :
      ∃ b, outcome (.ofClasses classes) = .answer b := by
    rcases ended (.ofClasses classes) with ⟨b, ho, -⟩ | ⟨fault, ho, -⟩
    · exact ⟨b, ho⟩
    · exact absurd ((fails classes fault).1 ho) (h fault)
  refine ⟨fun classes => ⟨fails classes, answers classes, fun fault h => ?_⟩, fun a b hs ht => ?_⟩
  · exact ((fails classes fault).1 h).report
  · have read (classes : List ClassInfo) (hc : ∀ info ∈ classes, ∀ r, info.superclass = some r →
        ∃ text, TypeRef.ofText text = .ok r) : ∃ b, outcome (.ofClasses classes) = .answer b :=
      answers classes fun fault => not_malformed_of_read hs ht hc
    refine ⟨read, fun path stored index h => ?_⟩
    obtain ⟨classes, rfl, hc⟩ := exists_classes_of_load h
    exact read classes hc

/-- A list without a component, as the superclass of a class. -/
def belowBareList : ClassInfo :=
  ⟨"app.Pet", some ⟨.array, "builtins.list", none, none, []⟩, [], [], [], []⟩

/-- In a world whose only module is broken, a test fails at a list without a component, and answers
where the class is not indexed. -/
theorem test_malformed_iff_belowBareList :
    let p := (Live.Setting.mk ⟨[("app", ⟨.broken, [], []⟩)], []⟩ .empty).process
    let outcome (classes : List ClassInfo) := (test .standard (p.source .free)
      (.ofClasses classes) (.ofClass "app.Pet") (.ofClass "app.Animal") []).outcome
    p.Contained ∧
    outcome [belowBareList] = .malformed (.invalid "builtins.list" .noComponent) ∧
    ∃ b, outcome [] = .answer b := by
  intro p outcome
  have contained : p.Contained := Live.Setting.contained_process (by simp) (by simp)
  have hs : (TypeRef.ofClass "app.Pet").canonicalName = .ok "app.Pet" := rfl
  have ht : (TypeRef.ofClass "app.Animal").canonicalName = .ok "app.Animal" := rfl
  have hi : (ClassIndex.ofClasses [belowBareList]).get? "app.Pet" = some belowBareList := rfl
  have miss : ¬ Matches (.ofClasses [belowBareList]) "app.Pet" belowBareList "app.Animal" := by
    rintro (h | h)
    · cases h
    · exact not_above (not_link_of_fault hi rfl rfl) h
  have breaks : Breaks (.ofClasses [belowBareList]) "app.Pet"
      (.invalid "builtins.list" .noComponent) := ⟨_, _, _, .refl, hi, rfl, rfl⟩
  have readPet : TypeRef.ofText "app.Pet" = .ok (.ofClass "app.Pet") := by
    rw [TypeRef.ofText, TypeRef.read_eq]
    rfl
  have readAnimal : TypeRef.ofText "app.Animal" = .ok (.ofClass "app.Animal") := by
    rw [TypeRef.ofText, TypeRef.read_eq]
    rfl
  obtain ⟨everywhere, read⟩ := test_malformed_iff contained .free .standard []
    (.ofClass "app.Pet") (.ofClass "app.Animal")
  refine ⟨contained, ?_, (read _ _ readPet readAnimal).1 [] (by simp)⟩
  exact ((everywhere [belowBareList]).1 _).2
    (.superclass hs ht (by simp [SameName, Options.standard]) hi miss breaks)

end Subtype

end TypeCatalog
