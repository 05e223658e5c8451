import Mathlib.Algebra.Field.Rat
import Mathlib.Algebra.Order.Ring.Rat
import Mathlib.Algebra.Order.Field.Power
import Mathlib.Data.Int.Cast.Field
import Mathlib.Data.Rat.Cast.Defs
import Mathlib.Tactic.FieldSimp
import TypeCatalog.Decimal.Shortest

/-! # Decimal — what a float stands for

A float stands for a fraction or for one of the infinities, unless it is not a number.  The parts of
a finite one are those of no other, except that zero has two signs.  So floats are the same just if
they stand for the same, and so are a float and a whole number.

* `Normal.eq_of_mul_eq`: the mantissa and the exponent of a fraction are determined by it.
* `same_iff`, `isInt_iff`: the comparisons of numbers are those of what they stand for.
-/

namespace TypeCatalog.Decimal

/-- What a float stands for. -/
inductive Quantity where
  | fraction (q : ℚ)
  | infinite (negative : Bool)

/-- What a whole number stands for. -/
def Quantity.whole (i : Int) : Quantity := .fraction i

@[simp] theorem Quantity.whole_inj {i j : Int} : whole i = whole j ↔ i = j := by
  simp [whole]

/-- The whole number with a sign. -/
def withSign (negative : Bool) (m : Nat) : Int := if negative then -m else m

/-- The fraction with the parts. -/
def fractionOf (negative : Bool) (m : Nat) (e : Int) : ℚ := withSign negative m * 2 ^ e

/-- What `x` stands for, if it is a number. -/
def quantity? (x : Float) : Option Quantity :=
  match parts x with
  | .nan                   => none
  | .infinite negative     => some (.infinite negative)
  | .finite negative m e _ => some (.fraction (fractionOf negative m e))

/-! ### Mantissas and exponents -/

/-- The mantissas and exponents of finite floats: a mantissa has as many bits as there are, except
with the least exponent. -/
structure Normal (m : Nat) (e : Int) : Prop where
  below : m < 2 ^ 53
  full : e = -1074 ∨ -1074 < e ∧ 2 ^ 52 ≤ m

theorem normal_of_parts {x : Float} {negative narrow : Bool} {m : Nat} {e : Int}
    (h : parts x = .finite negative m e narrow) : Normal m e := by
  have fraction : x.toBits.toNat % Nat.pow 2 52 < 2 ^ 52 := Nat.mod_lt _ (by decide)
  have implicit : Nat.pow 2 52 = 2 ^ 52 := rfl
  simp only [parts] at h
  split at h
  · split at h <;> cases h
  · split at h
    · cases h
      exact ⟨by omega, .inl rfl⟩
    · cases h
      exact ⟨by omega, by omega⟩

theorem Normal.eq_of_mul_pow_eq {m n : Nat} {e f : Int} (hm : Normal m e) (hn : Normal n f)
    (hef : e ≤ f) (h : m = n * 2 ^ (f - e).toNat) : m = n ∧ e = f := by
  obtain rfl | hlt := hef.eq_or_lt
  · simpa using h
  · -- above the least exponent the mantissa is full, and twice as much is too large
    have full : 2 ^ 52 ≤ n := by
      have := hn.full
      have := hm.full
      omega
    have twice : 2 ^ 1 ≤ 2 ^ (f - e).toNat := Nat.pow_le_pow_right (by decide) (by omega)
    have large : 2 ^ 52 * 2 ^ 1 ≤ n * 2 ^ (f - e).toNat := Nat.mul_le_mul full twice
    have := hm.below
    omega

/-- Finite floats with the same magnitude have the same mantissa and the same exponent. -/
theorem Normal.eq_of_mul_eq {m n : Nat} {e f : Int} (hm : Normal m e) (hn : Normal n f)
    (h : (m : ℚ) * 2 ^ e = n * 2 ^ f) : m = n ∧ e = f := by
  have shifted {m n : Nat} {e f : Int} (hef : e ≤ f) (h : (m : ℚ) * 2 ^ e = n * 2 ^ f) :
      m = n * 2 ^ (f - e).toNat := by
    have hf : (2 : ℚ) ^ f = 2 ^ (f - e).toNat * 2 ^ e := by
      rw [← zpow_natCast, ← zpow_add₀ two_ne_zero, Int.toNat_of_nonneg (by omega),
        Int.sub_add_cancel]
    rw [hf, ← mul_assoc] at h
    exact_mod_cast mul_right_cancel₀ (zpow_ne_zero e two_ne_zero) h
  obtain hef | hfe := le_total e f
  · exact hm.eq_of_mul_pow_eq hn hef (shifted hef h)
  · obtain ⟨hnm, hfe⟩ := hn.eq_of_mul_pow_eq hm hfe (shifted hfe h.symm)
    exact ⟨hnm.symm, hfe.symm⟩

/-! ### Comparisons -/

theorem abs_fractionOf (negative : Bool) (m : Nat) (e : Int) :
    |fractionOf negative m e| = m * 2 ^ e := by
  rw [fractionOf, abs_mul, abs_of_pos (a := (2 : ℚ) ^ e) (zpow_pos two_pos e)]
  cases negative <;> simp [withSign]

/-- The fraction determines the parts, but not the sign of zero. -/
theorem fractionOf_eq_iff {a b : Bool} {m n : Nat} {e f : Int} (hm : Normal m e)
    (hn : Normal n f) :
    fractionOf a m e = fractionOf b n f ↔ m = 0 ∧ n = 0 ∨ a = b ∧ m = n ∧ e = f := by
  constructor
  · intro h
    obtain ⟨rfl, rfl⟩ := hm.eq_of_mul_eq hn (by rw [← abs_fractionOf a, h, abs_fractionOf])
    rcases Nat.eq_zero_or_pos m with rfl | hpos
    · exact .inl ⟨rfl, rfl⟩
    · have signs : withSign a m = withSign b m := by
        exact_mod_cast mul_right_cancel₀ (zpow_ne_zero e two_ne_zero) h
      refine .inr ⟨?_, rfl, rfl⟩
      cases a <;> cases b <;> simp [withSign] at signs ⊢ <;> omega
  · rintro (⟨rfl, rfl⟩ | ⟨rfl, rfl, rfl⟩)
    · cases a <;> cases b <;> simp [fractionOf, withSign]
    · rfl

/-- Floats, one of which is a number, are the same if they stand for the same. -/
theorem same_iff {x y : Float} (h : quantity? x ≠ none ∨ quantity? y ≠ none) :
    same x y = true ↔ quantity? x = quantity? y := by
  revert h
  rw [same, quantity?, quantity?]
  cases hx : parts x with
  | nan => cases parts y <;> simp
  | infinite a => cases parts y <;> simp
  | finite a m e =>
      cases hy : parts y with
      | nan => simp
      | infinite b => simp
      | finite b n f =>
          simp only [Bool.or_eq_true, Bool.and_eq_true, beq_iff_eq, and_assoc, Option.some.injEq,
            Quantity.fraction.injEq]
          rw [fractionOf_eq_iff (normal_of_parts hx) (normal_of_parts hy)]
          exact fun _ => Iff.rfl

/-- A float is a whole number if it stands for it. -/
theorem isInt_iff {x : Float} {i : Int} :
    isInt x i = true ↔ quantity? x = some (.whole i) := by
  rw [isInt, quantity?]
  cases hx : parts x with
  | nan => simp
  | infinite a => simp [Quantity.whole]
  | finite a m e =>
      simp only [Option.some.injEq, Quantity.whole, Quantity.fraction.injEq, fractionOf]
      change (if 0 ≤ e then i == withSign a m * 2 ^ e.toNat
        else i * 2 ^ (-e).toNat == withSign a m) = true ↔ _
      split
      · obtain ⟨n, rfl⟩ := Int.eq_ofNat_of_zero_le ‹0 ≤ e›
        rw [beq_iff_eq, zpow_natCast, Int.toNat_natCast, eq_comm]
        exact_mod_cast Iff.rfl
      · obtain ⟨n, rfl⟩ : ∃ n : Nat, e = -n := ⟨(-e).toNat, by omega⟩
        rw [beq_iff_eq, zpow_neg, zpow_natCast, neg_neg, Int.toNat_natCast,
          mul_inv_eq_iff_eq_mul₀ (pow_ne_zero n two_ne_zero), eq_comm]
        exact_mod_cast Iff.rfl

end TypeCatalog.Decimal
