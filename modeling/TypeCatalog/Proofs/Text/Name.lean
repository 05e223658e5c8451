import TypeCatalog.Proofs.Text.Brackets
import TypeCatalog.Text.Blank
import TypeCatalog.Text.Dotted

/-! # Text — what names are made of

The characters of a dotted name are word characters and full stops, those of an identifier continue
identifiers.  Neither are blanks, and neither separate the parts of a reference: names are never
empty, trimming leaves them alone, and they hold no bracket, bar, comma or colon.

* `visible_of_isWord`, `visible_of_isIdentifierPart`: no blank is in a class of name characters.
* `IsName`: what dotted names and identifiers have in common.
-/

namespace TypeCatalog.Text

/-! ### Blanks are in no class -/

/-- The code points of the blanks. -/
def blankCodes : List Nat := blankRanges.flatMap fun r => List.range' r.1 (r.2 + 1 - r.1)

theorem mem_blankCodes {c : Char} (h : isBlank c = true) : c.toNat ∈ blankCodes := by
  obtain ⟨r, hr, hc⟩ := List.any_eq_true.1 h
  simp only [Bool.and_eq_true, decide_eq_true_eq] at hc
  refine List.mem_flatMap.2 ⟨r, hr, List.mem_range'_1.2 ⟨hc.1, ?_⟩⟩
  omega

/-- A class that has no blank code point has no blank. -/
theorem visible_of_forall {p : Char → Bool} (h : ∀ n ∈ blankCodes, p (Char.ofNat n) = false)
    {c : Char} (hc : p c = true) : isBlank c = false := by
  cases hb : isBlank c with
  | false => rfl
  | true =>
      have hn := h c.toNat (mem_blankCodes hb)
      rw [Char.ofNat_toNat, hc] at hn
      cases hn

-- the blanks are few, so a class is looked up at each of them

theorem visible_of_isWord {c : Char} (h : isWord c = true) : isBlank c = false :=
  visible_of_forall (by decide +kernel) h

theorem visible_of_isIdentifierPart {c : Char} (h : isIdentifierPart c = true) :
    isBlank c = false :=
  visible_of_forall (by decide +kernel) h

/-! ### Names -/

/-- A text of characters that are neither blanks nor separate the parts of a reference. -/
structure IsName (cs : List Char) : Prop where
  ne_nil : cs ≠ []
  visible : ∀ c ∈ cs, isBlank c = false
  no_delimiter : ∀ c ∈ cs, c ∉ delimiters

namespace IsName

variable {cs : List Char} {c : Char}

theorem trim_eq (h : IsName cs) : trim cs = cs :=
  trim_eq_self (fun c hc => h.visible c (List.mem_of_mem_head? hc))
    fun c hc => h.visible c (List.mem_of_getLast? hc)

theorem not_mem (h : IsName cs) (hc : c ∈ delimiters) : c ∉ cs :=
  fun hm => h.no_delimiter c hm hc

theorem head_ne (h : IsName cs) : cs.head? ≠ some '~' :=
  fun he => h.not_mem (by decide) (List.mem_of_mem_head? he)

theorem balanced (h : IsName cs) : Balanced cs := by
  refine balanced_of_forall fun c hc hb => h.no_delimiter c hc ?_
  rcases hb with rfl | rfl <;> decide

theorem not_outside (h : IsName cs) (hc : c ∈ delimiters) : ¬ Outside c cs :=
  not_outside_of_not_mem (h.not_mem hc)

end IsName

theorem isWord_of_isAlpha {c : Char} (h : (c.isAlpha || c == '_') = true) : isWord c = true := by
  rcases Bool.or_eq_true_iff.1 h with h | h <;> simp [isWord, Char.isAlphanum, h]

theorem isName_of_isIdentifier {cs : List Char} (h : isIdentifier cs = true) : IsName cs := by
  cases cs with
  | nil => cases h
  | cons c cs =>
      obtain ⟨hc, hcs⟩ := Bool.and_eq_true_iff.1 h
      have part : ∀ a ∈ c :: cs, isIdentifierPart a = true := by
        intro a ha
        rcases List.mem_cons.1 ha with rfl | ha
        · simp [isIdentifierPart, hc]
        · exact List.all_eq_true.1 hcs a ha
      refine ⟨by simp, fun a ha => visible_of_isIdentifierPart (part a ha), fun a ha hd => ?_⟩
      have ha := part a ha
      rw [isIdentifierPart_delimiter a hd] at ha
      cases ha

theorem mem_of_mem_glue {sep c : Char} :
    ∀ {ps : List (List Char)}, c ∈ glue sep ps → c = sep ∨ ∃ p ∈ ps, c ∈ p
  | [],          h => by cases h
  | [p],         h => .inr ⟨p, by simp, h⟩
  | p :: q :: r, h => by
      rw [glue, List.mem_append, List.mem_cons] at h
      rcases h with h | h | h
      · exact .inr ⟨p, by simp, h⟩
      · exact .inl h
      · refine (mem_of_mem_glue h).imp id ?_
        rintro ⟨a, ha, hca⟩
        exact ⟨a, List.mem_cons_of_mem _ ha, hca⟩

/-- The characters of a dotted name are word characters and full stops. -/
theorem isWord_or_eq_of_isDotted {cs : List Char} {c : Char} (h : isDotted cs = true)
    (hc : c ∈ cs) : isWord c = true ∨ c = '.' := by
  rw [← glue_pieces '.' cs] at hc
  rcases mem_of_mem_glue hc with rfl | ⟨p, hp, hcp⟩
  · exact .inr rfl
  · have hcomp := List.all_eq_true.1 h p hp
    cases p with
    | nil => cases hcp
    | cons a as =>
        obtain ⟨ha, has⟩ := Bool.and_eq_true_iff.1 hcomp
        rcases List.mem_cons.1 hcp with rfl | hcp
        · exact .inl (isWord_of_isAlpha ha)
        · exact .inl (List.all_eq_true.1 has c hcp)

theorem isName_of_isDotted {cs : List Char} (h : isDotted cs = true) : IsName cs := by
  refine ⟨?_, fun c hc => ?_, fun c hc hd => ?_⟩
  · rintro rfl
    cases h
  · rcases isWord_or_eq_of_isDotted h hc with hw | rfl
    · exact visible_of_isWord hw
    · decide
  · rcases isWord_or_eq_of_isDotted h hc with hw | rfl
    · rw [isWord_delimiter c hd] at hw
      cases hw
    · revert hd
      decide

end TypeCatalog.Text
