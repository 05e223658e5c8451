import TypeCatalog.Proofs.Snapshot.Inner
import TypeCatalog.Proofs.Snapshot.Parts

/-! # Snapshots — what recording makes of a value

Recording does one of three things to a value.  A list becomes a tuple, a mapping that is an
annotation becomes one, and in both cases recording goes on with the values inside; whatever else
there is stays as it is.  It fails where a mapping has the shape of an annotation without being one,
and where it would go on for ever.

* `recordValue_cases`: the three cases.
* `recordValue_induction`: what holds in each of them, if it holds inside, holds of all values that
  are recorded.
* `Malformed`: recording comes to what has the shape of an annotation without being one.
* `exists_recordValue_iff`: a value is recorded unless it is malformed or goes on for ever.
-/

namespace TypeCatalog

open Relation (ReflTransGen)

variable {v w x y : Value} {xs : List Value} {name : String} {vs ws : Entries String Value}
  {n : Nat}

/-! ### One level -/

theorem recordTo_list (h : v.opened = .list xs) :
    recordTo (n + 1) v = (forEach (recordTo n) xs).map .tuple := by
  rw [recordTo, h]

theorem recordTo_annotated (h : IsAnnotation v name vs) :
    recordTo (n + 1) v =
      (forValues (recordTo n) vs).map fun ws => .nested name ws none none := by
  have checked := (h.isShaped.check_eq_valid_iff (e := ⟨name, vs⟩)).2 h
  obtain ⟨entries, shape, -, -⟩ := h
  rw [recordTo, Value.entries?_eq_some_iff.1 entries]
  dsimp only
  rw [if_pos (isNestedShape_iff.2 ⟨_, _, shape⟩), checked]

theorem recordTo_misshapen (h : Misshapen v) :
    recordTo (n + 1) v = .error (.nested (AnnotationEntry.check v).complaints) := by
  obtain ⟨es, nameAt, valuesAt, entries, shape⟩ := h.shaped
  rw [recordTo, Value.entries?_eq_some_iff.1 entries]
  dsimp only
  rw [if_pos (isNestedShape_iff.2 ⟨_, _, shape⟩)]
  split
  · rename_i e checked
    exact absurd (h.shaped.check_eq_valid_iff.1 checked) (h.none _ _)
  · rfl

theorem recordTo_stays (h : Stays v) : recordTo (n + 1) v = .ok v := by
  rw [recordTo]
  split
  · rename_i xs list
    exact absurd list (h.noList xs)
  · rename_i es entries
    refine if_neg fun shaped => h.unshaped ?_
    obtain ⟨nameAt, valuesAt, shape⟩ := isNestedShape_iff.1 shaped
    exact ⟨es, nameAt, valuesAt, Value.entries?_eq_some_iff.2 entries, shape⟩
  · rfl

/-! ### Properties -/

/-- Properties in step: the same names, and values in the relation. -/
def InStep (R : Value → Value → Prop) : Entries String Value → Entries String Value → Prop :=
  List.Forall₂ fun p q => p.1 = q.1 ∧ R p.2 q.2

namespace InStep

variable {R S : Value → Value → Prop}

theorem imp (h : InStep R vs ws) (hRS : ∀ v w, R v w → S v w) : InStep S vs ws :=
  List.Forall₂.imp (fun _ _ ⟨hn, hv⟩ => ⟨hn, hRS _ _ hv⟩) h

theorem names (h : InStep R vs ws) : vs.map Prod.fst = ws.map Prod.fst := by
  induction h with
  | nil => rfl
  | cons hpq _ ih => rw [List.map_cons, List.map_cons, hpq.1, ih]

theorem values (h : InStep R vs ws) : List.Forall₂ R (vs.map Prod.snd) (ws.map Prod.snd) :=
  List.forall₂_map_left_iff.2 (List.forall₂_map_right_iff.2 (List.Forall₂.imp (fun _ _ h => h.2) h))

/-- Properties in step, if the values on the left have what that takes. -/
theorem of_forall_mem {P : Value → Prop} (h : InStep (fun v w => P v → R v w) vs ws)
    (hP : ∀ p ∈ vs, P p.2) : InStep R vs ws :=
  forall₂_of_forall_mem (List.Forall₂.imp (fun _ _ ⟨hn, hv⟩ hp => ⟨hn, hv hp⟩) h) hP

theorem forall_iff {P Q : Value → Prop} (h : InStep (fun v w => P v ↔ Q w) vs ws) :
    (∀ p ∈ vs, P p.2) ↔ ∀ q ∈ ws, Q q.2 :=
  forall_mem_iff_of_forall₂ (List.Forall₂.imp (fun _ _ h => h.2) h)

theorem exists_iff {P Q : Value → Prop} (h : InStep (fun v w => P v ↔ Q w) vs ws) :
    (∃ p ∈ vs, P p.2) ↔ ∃ q ∈ ws, Q q.2 :=
  exists_mem_iff_of_forall₂ (List.Forall₂.imp (fun _ _ h => h.2) h)

end InStep

theorem forValues_eq_ok_iff {ε : Type} {f : Value → Except ε Value} :
    forValues f vs = .ok ws ↔ InStep (fun v w => f v = .ok w) vs ws := by
  have step (p q : String × Value) : (f p.2).map (fun w => (p.1, w)) = .ok q ↔
      p.1 = q.1 ∧ f p.2 = .ok q.2 := by
    obtain ⟨m, w⟩ := q
    simp [map_eq_ok_iff, and_comm]
  simp only [forValues, forEach_eq_ok_iff, step, InStep]

/-- **The properties of an annotation** are recorded one by one, under their names. -/
theorem recordProperties_eq_ok_iff :
    recordProperties vs = .ok ws ↔ InStep (fun v w => recordValue v = .ok w) vs ws :=
  forValues_eq_ok_iff

/-! ### So many levels -/

/-- More levels change nothing, if there were enough. -/
theorem recordTo_succ_of_ne (h : recordTo n v ≠ .error .endless) :
    recordTo (n + 1) v = recordTo n v := by
  induction n generalizing v with
  | zero => exact absurd rfl h
  | succ n ih =>
      rcases value_cases v with ⟨xs, list⟩ | ⟨name, vs, annotated⟩ | misshapen | stays
      · rw [recordTo_list list] at h
        rw [recordTo_list list, recordTo_list list]
        exact congrArg _ (forEach_of_ne (mt map_eq_error_iff.2 h) fun x _ hx => ih hx)
      · rw [recordTo_annotated annotated] at h
        rw [recordTo_annotated annotated, recordTo_annotated annotated]
        refine congrArg _ (forEach_of_ne (mt map_eq_error_iff.2 h) fun p _ hp => ?_)
        exact congrArg _ (ih (mt map_eq_error_iff.2 hp))
      · rw [recordTo_misshapen misshapen, recordTo_misshapen misshapen]
      · rw [recordTo_stays stays, recordTo_stays stays]

theorem recordTo_of_le {m : Nat} (h : recordTo n v ≠ .error .endless) (hm : n ≤ m) :
    recordTo m v = recordTo n v := by
  induction hm with
  | refl => rfl
  | step _ ih => rw [recordTo_succ_of_ne (by rwa [ih]), ih]

/-- Two numbers of levels that are enough lead to the same. -/
theorem recordTo_congr {m : Nat} (h : recordTo n v ≠ .error .endless)
    (h' : recordTo m v ≠ .error .endless) : recordTo n v = recordTo m v := by
  rcases Nat.le_total n m with hm | hm
  · exact (recordTo_of_le h hm).symm
  · exact recordTo_of_le h' hm

/-- If there are not enough levels, there is a way with so many steps. -/
theorem goes_of_recordTo (h : recordTo n v = .error .endless) : Goes Inner n v := by
  induction n generalizing v with
  | zero => exact .zero v
  | succ n ih =>
      rcases value_cases v with ⟨xs, list⟩ | ⟨name, vs, annotated⟩ | misshapen | stays
      · rw [recordTo_list list, map_eq_error_iff] at h
        obtain ⟨x, hx, h⟩ := exists_of_forEach_error h
        exact .succ (.item list hx) (ih h)
      · rw [recordTo_annotated annotated, map_eq_error_iff] at h
        obtain ⟨p, hp, h⟩ := exists_of_forEach_error h
        exact .succ (.value annotated hp) (ih (map_eq_error_iff.1 h))
      · rw [recordTo_misshapen misshapen] at h
        cases h
      · rw [recordTo_stays stays] at h
        cases h

/-- A value has no end if the levels for it are not enough. -/
theorem endless_of_recordValue (h : recordValue v = .error .endless) : Endless Inner v :=
  endless_of_goes v.family (fun _ hx _ => mem_family_of_inner hx) (Value.mem_family_self v)
    (goes_of_recordTo h)

/-! ### The cases of a value -/

theorem recordTo_cases (h : recordTo (n + 1) v = .ok w) :
    (∃ xs ys, v.opened = .list xs ∧ w = .tuple ys ∧
      List.Forall₂ (fun x y => recordTo n x = .ok y) xs ys) ∨
    (∃ name vs ws, IsAnnotation v name vs ∧ w = .nested name ws none none ∧
      InStep (fun x y => recordTo n x = .ok y) vs ws) ∨
    (Stays v ∧ w = v) := by
  rcases value_cases v with ⟨xs, list⟩ | ⟨name, vs, annotated⟩ | misshapen | stays
  · rw [recordTo_list list, map_eq_ok_iff] at h
    obtain ⟨ys, hys, rfl⟩ := h
    exact .inl ⟨xs, ys, list, rfl, forEach_eq_ok_iff.1 hys⟩
  · rw [recordTo_annotated annotated, map_eq_ok_iff] at h
    obtain ⟨ws, hws, rfl⟩ := h
    exact .inr (.inl ⟨name, vs, ws, annotated, rfl, forValues_eq_ok_iff.1 hws⟩)
  · rw [recordTo_misshapen misshapen] at h
    cases h
  · rw [recordTo_stays stays] at h
    exact .inr (.inr ⟨stays, (Except.ok.inj h).symm⟩)

/-- **Induction on what is recorded.**  Let a property of a value and what it is recorded as hold of
a list where it holds item by item, of an annotation where it holds of its values, and of what stays
as it is.  Then it holds of every value that is recorded. -/
theorem recordTo_induction {P : Value → Value → Prop}
    (list : ∀ v xs ys, v.opened = .list xs → List.Forall₂ P xs ys → P v (.tuple ys))
    (nested : ∀ v name vs ws, IsAnnotation v name vs → InStep P vs ws →
      P v (.nested name ws none none))
    (stays : ∀ v, Stays v → P v v) (h : recordTo n v = .ok w) : P v w := by
  induction n generalizing v w with
  | zero => cases h
  | succ n ih =>
      rcases recordTo_cases h with
        ⟨xs, ys, hv, rfl, hxs⟩ | ⟨name, vs, ws, hv, rfl, hvs⟩ | ⟨hv, rfl⟩
      · exact list v xs ys hv (hxs.imp fun _ _ h => ih h)
      · exact nested v name vs ws hv (hvs.imp fun _ _ h => ih h)
      · exact stays w hv

theorem recordValue_induction {P : Value → Value → Prop}
    (list : ∀ v xs ys, v.opened = .list xs → List.Forall₂ P xs ys → P v (.tuple ys))
    (nested : ∀ v name vs ws, IsAnnotation v name vs → InStep P vs ws →
      P v (.nested name ws none none))
    (stays : ∀ v, Stays v → P v v) (h : recordValue v = .ok w) : P v w :=
  recordTo_induction list nested stays h

/-! ### Values that are recorded -/

/-- Recording comes to a value that has the shape of an annotation without being one, at whatever
depth.  The values of other mappings are not looked at. -/
def Malformed (v : Value) : Prop := ∃ u, ReflTransGen Inner v u ∧ Misshapen u

/-- A value that is neither malformed nor goes on for ever in being recorded. -/
structure Recordable (v : Value) : Prop where
  wellFormed : ¬ Malformed v
  ends : ¬ Endless Inner v

theorem Misshapen.malformed (h : Misshapen v) : Malformed v := ⟨v, .refl, h⟩

theorem malformed_iff : Malformed v ↔ Misshapen v ∨ ∃ x, Inner v x ∧ Malformed x := by
  constructor
  · rintro ⟨u, way, h⟩
    rcases way.cases_head with rfl | ⟨x, hx, way⟩
    · exact .inl h
    · exact .inr ⟨x, hx, u, way, h⟩
  · rintro (h | ⟨x, hx, u, way, h⟩)
    · exact h.malformed
    · exact ⟨u, .head hx way, h⟩

theorem recordable_iff : Recordable v ↔ ¬ Misshapen v ∧ ∀ x, Inner v x → Recordable x := by
  constructor
  · rintro ⟨wellFormed, ends⟩
    rw [malformed_iff] at wellFormed
    rw [endless_iff_exists] at ends
    exact ⟨fun h => wellFormed (.inl h), fun x hx =>
      ⟨fun h => wellFormed (.inr ⟨x, hx, h⟩), fun h => ends ⟨x, hx, h⟩⟩⟩
  · rintro ⟨shaped, inner⟩
    refine ⟨?_, ?_⟩
    · rw [malformed_iff]
      rintro (h | ⟨x, hx, h⟩)
      · exact shaped h
      · exact (inner x hx).wellFormed h
    · rw [endless_iff_exists]
      rintro ⟨x, hx, h⟩
      exact (inner x hx).ends h

/-- What is recorded is neither malformed nor without an end. -/
theorem recordable_of_recordTo (h : recordTo n v = .ok w) : Recordable v := by
  refine recordTo_induction (P := fun v _ => Recordable v) (fun v xs ys list items => ?_)
    (fun v name vs ws annotated values => ?_) (fun v stays => ?_) h
  · refine recordable_iff.2 ⟨fun h => not_isShaped_of_list list h.shaped, fun x hx => ?_⟩
    obtain ⟨y, -, hy⟩ := exists_of_forall₂ items ((inner_list_iff list).1 hx)
    exact hy
  · refine recordable_iff.2 ⟨fun h => h.none _ _ annotated, fun x hx => ?_⟩
    obtain ⟨p, hp, rfl⟩ := (inner_annotation_iff annotated).1 hx
    obtain ⟨q, -, -, hq⟩ := exists_of_forall₂ values hp
    exact hq
  · exact recordable_iff.2 ⟨fun h => stays.unshaped h.shaped, fun x hx => absurd hx stays.not_inner⟩

/-- Complaints are about a malformed value. -/
theorem malformed_of_recordTo {complaints : List Complaint}
    (h : recordTo n v = .error (.nested complaints)) : Malformed v := by
  induction n generalizing v with
  | zero => cases h
  | succ n ih =>
      rcases value_cases v with ⟨xs, list⟩ | ⟨name, vs, annotated⟩ | misshapen | stays
      · rw [recordTo_list list, map_eq_error_iff] at h
        obtain ⟨x, hx, h⟩ := exists_of_forEach_error h
        exact malformed_iff.2 (.inr ⟨x, .item list hx, ih h⟩)
      · rw [recordTo_annotated annotated, map_eq_error_iff] at h
        obtain ⟨p, hp, h⟩ := exists_of_forEach_error h
        exact malformed_iff.2 (.inr ⟨p.2, .value annotated hp, ih (map_eq_error_iff.1 h)⟩)
      · exact misshapen.malformed
      · rw [recordTo_stays stays] at h
        cases h

/-- No type is read in recording a value. -/
theorem recordTo_ne_type {fault : TypeFault} : recordTo n v ≠ .error (.type fault) := by
  intro h
  induction n generalizing v with
  | zero => cases h
  | succ n ih =>
      rcases value_cases v with ⟨xs, list⟩ | ⟨name, vs, annotated⟩ | misshapen | stays
      · rw [recordTo_list list, map_eq_error_iff] at h
        obtain ⟨x, -, h⟩ := exists_of_forEach_error h
        exact ih h
      · rw [recordTo_annotated annotated, map_eq_error_iff] at h
        obtain ⟨p, -, h⟩ := exists_of_forEach_error h
        exact ih (map_eq_error_iff.1 h)
      · rw [recordTo_misshapen misshapen] at h
        cases h
      · rw [recordTo_stays stays] at h
        cases h

/-- **A value is recorded** unless it is malformed or goes on for ever. -/
theorem exists_recordValue_iff : (∃ w, recordValue v = .ok w) ↔ Recordable v := by
  constructor
  · rintro ⟨w, h⟩
    exact recordable_of_recordTo h
  · intro recordable
    cases h : recordValue v with
    | ok w => exact ⟨w, rfl⟩
    | error fault =>
        cases fault with
        | type fault => exact absurd h recordTo_ne_type
        | nested complaints => exact absurd (malformed_of_recordTo h) recordable.wellFormed
        | endless => exact absurd (endless_of_recordValue h) recordable.ends

/-- What is recorded with so many levels is recorded. -/
theorem recordValue_of_recordTo (h : recordTo n v = .ok w) : recordValue v = .ok w := by
  have enough : recordValue v ≠ .error .endless := fun endless =>
    (recordable_of_recordTo h).ends (endless_of_recordValue endless)
  rw [← h]
  exact recordTo_congr enough (by rw [h]; exact nofun)

/-- **A recorded value** is a tuple for a list, an annotation for a mapping that is one, or the
value itself. -/
theorem recordValue_cases (h : recordValue v = .ok w) :
    (∃ xs ys, v.opened = .list xs ∧ w = .tuple ys ∧
      List.Forall₂ (fun x y => recordValue x = .ok y) xs ys) ∨
    (∃ name vs ws, IsAnnotation v name vs ∧ w = .nested name ws none none ∧
      InStep (fun x y => recordValue x = .ok y) vs ws) ∨
    (Stays v ∧ w = v) := by
  rw [recordValue] at h
  generalize v.family.length = n at h
  cases n with
  | zero => cases h
  | succ n =>
      refine (recordTo_cases h).imp ?_ (.imp_left ?_)
      · rintro ⟨xs, ys, list, hw, items⟩
        exact ⟨xs, ys, list, hw, items.imp fun _ _ h => recordValue_of_recordTo h⟩
      · rintro ⟨name, vs, ws, annotated, hw, values⟩
        exact ⟨name, vs, ws, annotated, hw, values.imp fun _ _ h => recordValue_of_recordTo h⟩

end TypeCatalog
