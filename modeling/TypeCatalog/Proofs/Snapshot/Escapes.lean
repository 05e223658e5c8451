import TypeCatalog.Proofs.Snapshot.Recorded

/-! # Snapshots — failures that are passed on

A snapshot that gives no index is reported as such, with some exceptions.  What is found may be no
text to begin with: a path that cannot be looked up, a directory, a file that cannot be opened or
whose bytes are no text; or the text has a scalar that stands for nothing or is never read to its
end.  Or a value of an annotation cannot be recorded.  These values are not looked into when the
snapshot is checked, but only when its entries are read, and then complaints about an annotation
inside another one are no longer turned into reports; nor is that a value goes on for ever.

* `Part.fault?_eq_none_iff`: a value can be read if it can be recorded.
* `load_reports_iff`: when loading gives an index or a report.
-/

namespace TypeCatalog

/-! ### Parts -/

/-- A part that can be read. -/
def Part.IsSound : Part → Prop
  | .type text => ∃ r, TypeRef.ofText text = .ok r
  | .value v   => Recordable v

namespace Part

variable {p : Part}

theorem fault?_eq_none_iff : p.fault? = none ↔ p.IsSound := by
  cases p with
  | type text => simp only [fault?, faultOf_eq_none_iff, readType_eq_ok_iff, IsSound]
  | value v => simp only [fault?, faultOf_eq_none_iff, exists_recordValue_iff, IsSound]

/-- The fault of a text is about a type. -/
theorem exists_of_fault?_text {text : String} {f : EntryFault}
    (h : (Part.type text).fault? = some f) : ∃ fault, f = .type fault := by
  rw [fault?, faultOf_eq_some_iff, readType, mapError_eq_error_iff] at h
  obtain ⟨fault, -, rfl⟩ := h
  exact ⟨fault, rfl⟩

/-- The fault of a value is not about a type. -/
theorem fault?_value_ne {v : Value} {fault : TypeFault} :
    (Part.value v).fault? ≠ some (.type fault) := by
  rw [fault?, Ne, faultOf_eq_some_iff]
  exact recordTo_ne_type

theorem malformed_of_fault? {v : Value} {complaints : List Complaint}
    (h : (Part.value v).fault? = some (.nested complaints)) : Malformed v := by
  rw [fault?, faultOf_eq_some_iff] at h
  exact malformed_of_recordTo h

theorem endless_of_fault? {v : Value} (h : (Part.value v).fault? = some .endless) :
    Endless Inner v := by
  rw [fault?, faultOf_eq_some_iff] at h
  exact endless_of_recordValue h

end Part

/-- Of several parts, this is the first one that cannot be read. -/
def IsFirst (parts : List Part) (p : Part) : Prop :=
  ∃ front back, parts = front ++ p :: back ∧ (∀ q ∈ front, q.IsSound) ∧ ¬ p.IsSound

theorem isFirst_iff {parts : List Part} {p : Part} :
    IsFirst parts p ↔ parts.find? (fun q => q.fault?.isSome) = some p := by
  simp only [IsFirst, ← Part.fault?_eq_none_iff, List.find?_eq_some_iff_append,
    Option.isSome_iff_ne_none, Bool.not_eq_true', Option.isSome_eq_false_iff,
    Option.isNone_iff_eq_none]
  constructor
  · rintro ⟨front, back, hs, before, first⟩
    exact ⟨first, front, back, hs, before⟩
  · rintro ⟨first, front, back, hs, before⟩
    exact ⟨front, back, hs, before, first⟩

theorem IsFirst.unique {parts : List Part} {p q : Part} (hp : IsFirst parts p)
    (hq : IsFirst parts q) : p = q :=
  Option.some.inj ((isFirst_iff.1 hp).symm.trans (isFirst_iff.1 hq))

/-- The first fault is that of the first part that cannot be read. -/
theorem exists_isFirst {parts : List Part} {f : EntryFault} (h : firstFault parts = some f) :
    ∃ p, IsFirst parts p ∧ p.fault? = some f := by
  obtain ⟨front, p, back, hs, hp, before⟩ := List.findSome?_eq_some_iff.1 h
  refine ⟨p, ⟨front, back, hs, fun q hq => Part.fault?_eq_none_iff.1 (before q hq), ?_⟩, hp⟩
  rw [← Part.fault?_eq_none_iff, hp]
  exact nofun

/-! ### Loading -/

namespace Snapshot

/-- The result is an index, or a report of the part of the library that loads one. -/
def Reports (r : Except Failure ClassIndex) : Prop :=
  (∃ index, r = .ok index) ∨ ∃ f : Fault, r = .error (.fault f) ∧ f.report.family = .indexLoad

theorem reports_ok (index : ClassIndex) : Reports (.ok index) := .inl ⟨index, rfl⟩

/-- Every fault of a snapshot is reported as one of loading. -/
theorem reports_fault (f : Fault) : Reports (.error (.fault f)) :=
  .inr ⟨f, rfl, by cases f <;> rfl⟩

theorem not_reports_of_ne {e : Failure} (h : ∀ f, e ≠ .fault f) : ¬ Reports (.error e) := by
  rintro (⟨index, h'⟩ | ⟨f, h', -⟩)
  · cases h'
  · exact h f (Except.error.inj h')

/-- What becomes of something that hides such values: an index or a report, if it hides none.
Complaints are about a malformed value, and there are complaints unless the value goes on for
ever. -/
structure Comes (hides : Value → Prop) (r : Except Failure ClassIndex) : Prop where
  reports : Reports r ↔ ¬ ∃ v, hides v
  complains : ∀ complaints, r = .error (.nested complaints) → ∃ v, hides v ∧ Malformed v
  malformed : ∀ v, hides v → ¬ Endless Inner v → ∃ complaints, r = .error (.nested complaints)

/-- What is reported hides nothing. -/
theorem comes_of_reports {hides : Value → Prop} {r : Except Failure ClassIndex} (h : Reports r)
    (none : ∀ v, ¬ hides v) : Comes hides r := by
  refine ⟨iff_of_true h fun ⟨v, hv⟩ => none v hv, fun complaints hr => ?_,
    fun v hv => absurd hv (none v)⟩
  rw [hr] at h
  exact absurd h (not_reports_of_ne fun _ => nofun)

/-- **A snapshot** gives an index or a report unless its first unreadable part is a value. -/
theorem index_comes (source : String) (s : Snapshot) :
    Comes (fun v => IsFirst s.parts (.value v)) (s.index source) := by
  rcases index_cases source s with ⟨hs, index, h⟩ | ⟨f, i, hs, h⟩
  · refine comes_of_reports (h ▸ reports_ok index) fun v ⟨front, back, parts, _, unsound⟩ => ?_
    exact unsound (Part.fault?_eq_none_iff.1
      (List.findSome?_eq_none_iff.1 hs _ (parts ▸ by simp)))
  · obtain ⟨p, first, hp⟩ := exists_isFirst hs
    cases p with
    | type text =>
        obtain ⟨fault, rfl⟩ := Part.exists_of_fault?_text hp
        exact comes_of_reports (h ▸ reports_fault _) fun v hv => nomatch first.unique hv
    | value v =>
        have hidden {e : Failure} (h : ∀ f, e ≠ .fault f) :
            Reports (.error e) ↔ ¬ ∃ v, IsFirst s.parts (.value v) :=
          iff_of_false (not_reports_of_ne h) (not_not.2 ⟨v, first⟩)
        rw [h]
        cases f with
        | type fault => exact absurd hp Part.fault?_value_ne
        | nested complaints =>
            exact ⟨hidden fun _ => nofun, fun _ _ => ⟨v, first, Part.malformed_of_fault? hp⟩,
              fun _ _ _ => ⟨complaints, rfl⟩⟩
        | endless =>
            refine ⟨hidden fun _ => nofun, fun _ => nofun, fun u hu ends => ?_⟩
            obtain rfl := Part.value.inj (first.unique hu)
            exact absurd (Part.endless_of_fault? hp) ends

/-- The document is a snapshot, and its first part that cannot be read is the value. -/
def Hides (doc v : Value) : Prop :=
  ∃ s, check (Stored.orEmpty doc) = .valid s ∧ IsFirst s.parts (.value v)

theorem ofDocument_comes (path : String) (doc : Value) :
    Comes (Hides doc) (ofDocument path doc) := by
  unfold ofDocument
  cases h : check (Stored.orEmpty doc) with
  | valid s =>
      have hides : Hides doc = fun v => IsFirst s.parts (.value v) := by
        funext v
        simp [Hides, h]
      rw [hides]
      exact index_comes path s
  | invalid c cs =>
      exact comes_of_reports (reports_fault _) fun v ⟨s, hs, _⟩ => nomatch h.symm.trans hs
  | abandoned reason =>
      exact comes_of_reports (reports_fault _) fun v ⟨s, hs, _⟩ => nomatch h.symm.trans hs

/-- What is found at a path, where that it gives no index is not reported. -/
inductive Escapes : Stored → Prop where
  | unreachable : Escapes .unreachable
  | directory : Escapes .directory
  | closed (permitted : Bool) : Escapes (.closed permitted)
  | undecodable : Escapes .undecodable
  | scalar (b : Document.BadValue) : Escapes (.unusable b)
  | endless : Escapes .endless
  | hidden {doc v : Value} (h : Hides doc v) : Escapes (.document doc)

/-- **Loading gives an index or a report**, unless what is found is no text, or has a scalar that
stands for nothing or is never read to its end, or is a snapshot whose first unreadable part is a
value of an annotation, that is, one that is malformed or goes on for ever in being recorded.  If
loading fails with complaints, that value is malformed; if it does not go on for ever, loading fails
with complaints. -/
theorem load_reports_iff (path : String) (stored : Stored) :
    (Reports (load path stored).result ↔ ¬ Escapes stored) ∧
      (∀ complaints, (load path stored).result = .error (.nested complaints) →
        ∃ doc v, stored = .document doc ∧ Hides doc v ∧ Malformed v) ∧
      ∀ doc v, stored = .document doc → Hides doc v → ¬ Endless Inner v →
        ∃ complaints, (load path stored).result = .error (.nested complaints) := by
  have escapes (e : Failure) (unreported : ∀ f, e ≠ .fault f) (h : Escapes stored) :
      Reports (.error e) ↔ ¬ Escapes stored :=
    iff_of_false (not_reports_of_ne unreported) (not_not.2 h)
  cases stored with
  | absent => exact ⟨iff_of_true (reports_fault _) nofun, nofun, nofun⟩
  | unreadable reason => exact ⟨iff_of_true (reports_fault _) nofun, nofun, nofun⟩
  | unreachable => exact ⟨escapes _ nofun .unreachable, nofun, nofun⟩
  | directory => exact ⟨escapes _ nofun .directory, nofun, nofun⟩
  | closed permitted => exact ⟨escapes _ nofun (.closed permitted), nofun, nofun⟩
  | undecodable => exact ⟨escapes _ nofun .undecodable, nofun, nofun⟩
  | unusable b => exact ⟨escapes _ nofun (.scalar b), nofun, nofun⟩
  | endless => exact ⟨escapes _ nofun .endless, nofun, nofun⟩
  | document doc =>
      have comes : Comes (Hides doc) (load path (.document doc)).result :=
        ofDocument_comes path doc
      have escapes_iff : Escapes (.document doc) ↔ ∃ v, Hides doc v :=
        ⟨fun (.hidden h) => ⟨_, h⟩, fun ⟨_, h⟩ => .hidden h⟩
      rw [escapes_iff]
      refine ⟨comes.reports, fun complaints h => ?_, ?_⟩
      · obtain ⟨v, hidden, malformed⟩ := comes.complains complaints h
        exact ⟨doc, v, rfl, hidden, malformed⟩
      · rintro _ v ⟨⟩ hidden ends
        exact comes.malformed v hidden ends

/-- A class with an annotation that holds another one, whose name is a number. -/
def numberedAnnotation : Value :=
  .ofFields [("classes", .list [.ofFields [("name", .text "app.A"), ("annotations", .list [.ofFields
    [("name", .text "A"), ("values", .ofFields [("v", .ofFields
      [("name", .int 1), ("values", .dict [])])])]])]])]

/-- A well-formed document can make loading fail without a report. -/
theorem not_load_reports :
    (load "index.yaml" (.document numberedAnnotation)).result =
        .error (.nested [⟨["name"], .notText, .int 1⟩]) ∧
      ¬ Reports (load "index.yaml" (.document numberedAnnotation)).result := by
  have unreported (f : Fault) : Failure.nested [⟨["name"], .notText, .int 1⟩] ≠ .fault f := nofun
  have h : (load "index.yaml" (.document numberedAnnotation)).result =
      .error (.nested [⟨["name"], .notText, .int 1⟩]) := by with_unfolding_all rfl
  refine ⟨h, ?_⟩
  rw [h]
  exact not_reports_of_ne unreported

end Snapshot

end TypeCatalog
