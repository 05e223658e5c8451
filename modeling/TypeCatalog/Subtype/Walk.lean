import TypeCatalog.Index
import TypeCatalog.TypeRef.Canonical

/-! # Subtypes — the walk through the index

Whether the index shows one class to lie below another: the target is among the subject's further
bases, or it is met on the way up from superclass to superclass.  The walk remembers the names it
has met.  It ends where it meets the target, at a class without a superclass, at a name that is not
indexed, or at a name it has met before.

* `climb`: the walk upwards; every step meets an indexed name for the first time, so that the
  names not yet met bound its length.
-/

namespace TypeCatalog.Subtype

/-- How a walk ends. -/
inductive Ending where
  | found
  | top
  | cycle (name : String)
  | outside
  | malformed (fault : TypeFault)

/-- A walk: the names it looked up, in order, and how it ended. -/
structure Walk where
  lookups : List String
  ending : Ending

/-- What a walk says: the target is above the subject, it is not, or the index does not tell. -/
inductive Verdict where
  | holds
  | fails
  | undecided
  deriving DecidableEq, Repr

def Ending.verdict? : Ending → Except TypeFault Verdict
  | .found           => .ok .holds
  | .top             => .ok .fails
  | .cycle _         => .ok .fails
  | .outside         => .ok .undecided
  | .malformed fault => .error fault

/-- How many indexed names have not been met. -/
def unmet (index : ClassIndex) (met : List String) : Nat :=
  (index.keys.filter fun n => !met.contains n).length

theorem mem_keys_of_get? {index : ClassIndex} {name : String} {c : ClassInfo}
    (h : index.get? name = some c) : name ∈ index.keys := by
  by_cases hm : name ∈ index.keys
  · exact hm
  · rw [OrderedMap.get?, (Entries.get?_eq_none_iff index.entries name).2 hm] at h
    cases h

theorem length_filter_le {α : Type} {p q : α → Bool} (h : ∀ x, q x = true → p x = true) :
    ∀ l : List α, (l.filter q).length ≤ (l.filter p).length
  | []     => Nat.le_refl _
  | x :: l => by
      have ih := length_filter_le h l
      by_cases hq : q x = true
      · simp [hq, h x hq, ih]
      · by_cases hp : p x = true
        · simp [hq, hp, Nat.le_succ_of_le ih]
        · simp [hq, hp, ih]

theorem length_filter_lt {α : Type} {p q : α → Bool} {a : α} (h : ∀ x, q x = true → p x = true)
    (hp : p a = true) (hq : q a = false) : ∀ {l : List α}, a ∈ l →
    (l.filter q).length < (l.filter p).length
  | [],     ha => absurd ha (by simp)
  | x :: l, ha => by
      rcases List.mem_cons.1 ha with rfl | ha
      · simp [hp, hq, Nat.lt_succ_of_le (length_filter_le h l)]
      · have ih := length_filter_lt h hp hq ha
        by_cases hx : q x = true
        · simp [hx, h x hx, ih]
        · by_cases hx' : p x = true
          · simp [hx, hx', Nat.lt_succ_of_lt ih]
          · simp [hx, hx', ih]

theorem unmet_cons_lt {index : ClassIndex} {met : List String} {name : String}
    (hi : name ∈ index.keys) (hm : met.contains name = false) :
    unmet index (name :: met) < unmet index met :=
  length_filter_lt (by simp) (by simpa using hm) (by simp) hi

/-- Walks up from a class with the superclass `above`, the names `met` having been met. -/
def climb (index : ClassIndex) (target : String) (met : List String) (above : Option TypeRef) :
    Walk :=
  match above with
  | none   => ⟨[], .top⟩
  | some r =>
      match r.canonicalName with
      | .error fault => ⟨[], .malformed fault⟩
      | .ok name     =>
          if name = target then ⟨[], .found⟩
          else
            match _hm : met.contains name with
            | true  => ⟨[], .cycle name⟩
            | false =>
                match _hi : index.get? name with
                | none   => ⟨[name], .outside⟩
                | some c =>
                    let rest := climb index target (name :: met) c.superclass
                    ⟨name :: rest.lookups, rest.ending⟩
termination_by unmet index met
decreasing_by exact unmet_cons_lt (mem_keys_of_get? (by assumption)) (by assumption)

/-- The walk from an indexed class to `target`. -/
def walk (index : ClassIndex) (subject : ClassInfo) (target : String) : Walk :=
  if subject.interfaces.contains target then ⟨[], .found⟩
  else climb index target [subject.name] subject.superclass

end TypeCatalog.Subtype
