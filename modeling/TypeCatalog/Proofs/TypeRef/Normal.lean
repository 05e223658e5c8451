import TypeCatalog.Proofs.Format.Variables
import TypeCatalog.Proofs.TypeRef.Reread

/-! # Type references — printed references are normal forms

Reading a printed reference may turn a class into the primitive of the same name.  Nothing that is
asked of a reference by its name can tell the two apart: both are printed as the name, and the name
is what they come down to.  Only arrays are told from other references by kind, and they stay
arrays.

* `print_reread`, `canonicalName_reread`, `classify_reread`: what is kept when a reference is read
  again.
* `head?_ne_dash_of_denotes`: no reference is written with a dash in front.
-/

namespace TypeCatalog

namespace TypeRef

open Text

/-! ### What is kept -/

/-- **Reading again does not change the print.** -/
theorem print_reread (r : TypeRef) : (reread r).print = r.print := by
  fun_induction reread r with
  | case1 name component bound as p hp => simp [print]
  | case2 name component bound as hp => rfl
  | case3 container component bound as ih => simp [print, ih]
  | case4 name component bound as ih => simp [print, ih]
  | case5 r _ _ _ => rfl

/-- **Reading again does not change the name** that a reference comes down to. -/
theorem canonicalName_reread (r : TypeRef) : (reread r).canonicalName = r.canonicalName := by
  fun_induction reread r with
  | case1 name component bound as p hp => simp [canonicalName]
  | case2 name component bound as hp => rfl
  | case3 container component bound as ih => simp [canonicalName, ih]
  | case4 name component bound as ih => simp [canonicalName, ih]
  | case5 r _ _ _ => rfl

/-- An array stays an array, and nothing else becomes one. -/
theorem kind_reread_eq_array_iff (r : TypeRef) : (reread r).kind = .array ↔ r.kind = .array := by
  fun_cases reread r <;> simp

/-- **Reading again does not change the format**, in any table. -/
theorem classify_reread (t : FormatTable) (r : TypeRef) :
    t.classify (reread r) = t.classify r := by
  by_cases h : r.kind = .array
  · rw [t.classify_of_array ((kind_reread_eq_array_iff r).2 h), t.classify_of_array h]
  · rw [t.classify_of_ne_array fun hk => h ((kind_reread_eq_array_iff r).1 hk),
      t.classify_of_ne_array h, canonicalName_reread]

/-! ### Words that are no switches -/

/-- A dotted name does not start with a dash. -/
theorem head?_ne_dash_of_isDotted {cs : List Char} (h : isDotted cs = true) :
    cs.head? ≠ some '-' := by
  intro hc
  have not_word : isWord '-' = false := by decide
  rcases isWord_or_eq_of_isDotted h (List.mem_of_mem_head? hc) with hw | hw
  · rw [not_word] at hw
    cases hw
  · exact absurd hw (by decide)

/-- Neither does a dotted name with arguments, whatever blanks stand around the name. -/
theorem head?_ne_dash_of_subscript {text : List Char} {base : String} {args : List (List Char)}
    (h : Subscript text base args) : (trim text).head? ≠ some '-' := by
  cases h with
  | @mk head _ _ single _ dotted _ _ =>
      intro hc
      rw [single.trim_eq] at hc
      cases head with
      | nil => cases hc
      | cons c head =>
          obtain rfl : c = '-' := Option.some.inj hc
          exact head?_ne_dash_of_isDotted dotted (head?_trim rfl (by decide))

/-- **No reference is written with a dash in front.** -/
theorem head?_ne_dash_of_denotes {text : List Char} {r : TypeRef} (h : Denotes text r) :
    (trim text).head? ≠ some '-' := by
  induction h with
  | leaf h =>
      cases h with
      | unbounded tilde => rw [tilde]; simp
      | dropped subscript => exact head?_ne_dash_of_subscript subscript
      | @primitive p single =>
          rw [single.trim_eq]
          exact head?_ne_dash_of_isDotted (isDotted_spelling p)
      | name single dotted =>
          rw [single.trim_eq]
          exact head?_ne_dash_of_isDotted dotted
  | around h hr ih =>
      cases h with
      | bounded tilde => rw [tilde]; simp
      | optional subscript => exact head?_ne_dash_of_subscript subscript
      | array subscript => exact head?_ne_dash_of_subscript subscript
      | tuple subscript => exact head?_ne_dash_of_subscript subscript
      | @union source member front back plain pieces others none some =>
          -- the text starts with its first member, which is `None` or the reference
          intro hc
          rw [plain.trim_eq] at hc
          have dash {p : List Char} {ps : List (List Char)}
              (first : IsPieces '|' source (p :: ps)) : (trim p).head? = Option.some '-' :=
            head?_trim (first.head?_eq hc (by decide)) (by decide)
          cases front with
          | nil =>
              rw [trim_trim] at ih
              exact ih (dash pieces)
          | cons p front =>
              have hp := dash pieces
              rw [none p (by simp)] at hp
              exact absurd hp (by decide)

end TypeRef

end TypeCatalog
