import Mathlib.Data.List.Forall2

/-! # Outcomes

What an outcome of several steps says about each of them.

* `bind_eq_ok_iff`, `map_eq_ok_iff`: steps come to something where each does.
* `bind_eq_error_iff`: steps fail as the first that fails.
* `faultOf`, `faultOf_bind`: the fault of several steps is the first one.
-/

namespace TypeCatalog

/-- The fault an outcome comes to, if it does. -/
def faultOf {ε α : Type} : Except ε α → Option ε
  | .ok _    => none
  | .error e => some e

section

variable {ε α β : Type}

theorem bind_eq_ok_iff {x : Except ε α} {f : α → Except ε β} {b : β} :
    (x >>= f) = .ok b ↔ ∃ a, x = .ok a ∧ f a = .ok b := by
  cases x with
  | ok a => simp [bind, Except.bind]
  | error e => simp [bind, Except.bind]

theorem bind_eq_error_iff {x : Except ε α} {f : α → Except ε β} {e : ε} :
    (x >>= f) = .error e ↔ x = .error e ∨ ∃ a, x = .ok a ∧ f a = .error e := by
  cases x with
  | ok a => simp [bind, Except.bind]
  | error e => simp [bind, Except.bind]

theorem map_eq_ok_iff {x : Except ε α} {f : α → β} {b : β} :
    x.map f = .ok b ↔ ∃ a, x = .ok a ∧ f a = b := by
  cases x with
  | ok a => simp [Except.map]
  | error e => simp [Except.map]

theorem map_eq_error_iff {x : Except ε α} {f : α → β} {e : ε} :
    x.map f = .error e ↔ x = .error e := by
  cases x <;> simp [Except.map]

theorem mapError_eq_ok_iff {ε' : Type} {x : Except ε α} {f : ε → ε'} {a : α} :
    x.mapError f = .ok a ↔ x = .ok a := by
  cases x <;> simp [Except.mapError]

theorem mapError_eq_error_iff {ε' : Type} {x : Except ε α} {f : ε → ε'} {e : ε'} :
    x.mapError f = .error e ↔ ∃ e', x = .error e' ∧ f e' = e := by
  cases x <;> simp [Except.mapError]

@[simp] theorem faultOf_ok (a : α) : faultOf (.ok a : Except ε α) = none := rfl

@[simp] theorem faultOf_error (e : ε) : faultOf (.error e : Except ε α) = some e := rfl

theorem faultOf_eq_none_iff {x : Except ε α} : faultOf x = none ↔ ∃ a, x = .ok a := by
  cases x <;> simp

theorem faultOf_eq_some_iff {x : Except ε α} {e : ε} : faultOf x = some e ↔ x = .error e := by
  cases x <;> simp

@[simp] theorem faultOf_map (x : Except ε α) (f : α → β) : faultOf (x.map f) = faultOf x := by
  cases x <;> rfl

/-- Of two steps the first decides, and then the second, if its fault does not depend on what the
first came to. -/
theorem faultOf_bind {x : Except ε α} {f : α → Except ε β} {o : Option ε}
    (h : ∀ a, faultOf (f a) = o) : faultOf (x >>= f) = (faultOf x).or o := by
  cases x with
  | ok a => exact h a
  | error e => rfl

/-- Outcomes for a list whose first item comes to `b`. -/
theorem forall₂_cons_of_ok {f : α → Except ε β} {a : α} {b : β} (h : f a = .ok b) {as : List α}
    {bs : List β} :
    List.Forall₂ (fun a b => f a = .ok b) (a :: as) bs ↔
      ∃ cs, List.Forall₂ (fun a b => f a = .ok b) as cs ∧ b :: cs = bs := by
  constructor
  · rintro (_ | ⟨hb, hbs⟩)
    obtain rfl := Except.ok.inj (h.symm.trans hb)
    exact ⟨_, hbs, rfl⟩
  · rintro ⟨cs, hcs, rfl⟩
    exact .cons h hcs

theorem not_forall₂_cons_of_error {f : α → Except ε β} {a : α} {e : ε} (h : f a = .error e)
    {as : List α} {bs : List β} : ¬ List.Forall₂ (fun a b => f a = .ok b) (a :: as) bs := by
  rintro (_ | ⟨hb, -⟩)
  cases h.symm.trans hb

theorem exists_of_forall₂ {R : α → β → Prop} {as : List α} {bs : List β}
    (h : List.Forall₂ R as bs) {a : α} (ha : a ∈ as) : ∃ b ∈ bs, R a b := by
  induction h with
  | nil => cases ha
  | cons hab _ ih =>
      rcases List.mem_cons.1 ha with rfl | ha
      · exact ⟨_, List.mem_cons_self, hab⟩
      · obtain ⟨b, hb, hR⟩ := ih ha
        exact ⟨b, List.mem_cons_of_mem _ hb, hR⟩

theorem exists_mem_iff_of_forall₂ {P : α → Prop} {Q : β → Prop} {as : List α} {bs : List β}
    (h : List.Forall₂ (fun a b => P a ↔ Q b) as bs) : (∃ a ∈ as, P a) ↔ ∃ b ∈ bs, Q b := by
  induction h with
  | nil => exact iff_of_false nofun nofun
  | cons hab _ ih => rw [List.exists_mem_cons_iff, List.exists_mem_cons_iff, hab, ih]

theorem forall_mem_iff_of_forall₂ {P : α → Prop} {Q : β → Prop} {as : List α} {bs : List β}
    (h : List.Forall₂ (fun a b => P a ↔ Q b) as bs) : (∀ a ∈ as, P a) ↔ ∀ b ∈ bs, Q b := by
  induction h with
  | nil => exact iff_of_true nofun nofun
  | cons hab _ ih => rw [List.forall_mem_cons, List.forall_mem_cons, hab, ih]

/-- Items in step are related, if those on the left have what that takes. -/
theorem forall₂_of_forall_mem {P : α → Prop} {R : α → β → Prop} {as : List α} {bs : List β}
    (h : List.Forall₂ (fun a b => P a → R a b) as bs) (hP : ∀ a ∈ as, P a) :
    List.Forall₂ R as bs :=
  ((List.forall₂_and_left _ _).2 ⟨hP, h⟩).imp fun _ _ ⟨ha, hab⟩ => hab ha

theorem getElem?_of_forall₂ {R : α → β → Prop} {as : List α} {bs : List β}
    (h : List.Forall₂ R as bs) {i : Nat} {a : α} (ha : as[i]? = some a) :
    ∃ b, bs[i]? = some b ∧ R a b := by
  induction h generalizing i with
  | nil => cases ha
  | cons hab _ ih =>
      cases i with
      | zero =>
          obtain rfl := Option.some.inj ha
          exact ⟨_, rfl, hab⟩
      | succ i => exact ih ha

/-- Lists in step with a third one are in step with each other. -/
theorem forall₂_comp {γ : Type} {R : α → β → Prop} {S : β → γ → Prop} {as : List α} {bs : List β}
    {cs : List γ} (h : List.Forall₂ R as bs) (h' : List.Forall₂ S bs cs) :
    List.Forall₂ (fun a c => ∃ b, R a b ∧ S b c) as cs := by
  induction h generalizing cs with
  | nil =>
      cases h'
      exact .nil
  | cons hab _ ih =>
      obtain ⟨c, cs, hbc, hcs, rfl⟩ := List.forall₂_cons_left_iff.1 h'
      exact .cons ⟨_, hab, hbc⟩ (ih hcs)

/-- Two lists in step have their first hits in step. -/
theorem find?_of_forall₂ {R : α → β → Prop} {p : α → Bool} {q : β → Bool} {as : List α}
    {bs : List β} (h : List.Forall₂ R as bs) (hpq : ∀ a b, R a b → p a = q b) :
    Option.Rel R (as.find? p) (bs.find? q) := by
  induction h with
  | nil => exact .none
  | @cons a b _ _ hab _ ih =>
      rw [List.find?_cons, List.find?_cons, hpq a b hab]
      cases q b with
      | true => exact .some hab
      | false => exact ih

end

end TypeCatalog
