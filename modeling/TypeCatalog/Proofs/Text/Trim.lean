import Mathlib.Data.List.TakeWhile
import TypeCatalog.Text.Blank

/-! # Text — what trimming leaves

A trimmed text is what stands between the blanks at the two ends, and no blank stands at its own
ends.  A text all of whose ends are visible is its own trimmed form (`trim_eq_self`), so trimming
twice is trimming once.

* `exists_blanks`: the text is its trimmed form between blanks.
* `trim_trim`: trimming twice is trimming once.
* `trim_between`: blanks put around a text with visible ends are what trimming takes off.
-/

namespace TypeCatalog.Text

variable {c : Char} {cs : List Char}

/-- What is dropped satisfies `p`, and what is kept starts with a character that does not. -/
theorem exists_dropWhile {α : Type} (p : α → Bool) (l : List α) :
    ∃ front, l = front ++ l.dropWhile p ∧ (∀ a ∈ front, p a = true) ∧
      ∀ a ∈ (l.dropWhile p).head?, p a = false := by
  refine ⟨l.takeWhile p, (List.takeWhile_append_dropWhile).symm, fun a ha => ?_, fun a ha => ?_⟩
  · exact List.all_eq_true.1 List.all_takeWhile a ha
  · have h := List.head?_dropWhile_not p l
    rw [Option.mem_def.1 ha] at h
    simpa using h

/-- **What trimming leaves**: a text that stands between blanks, with no blank at its ends. -/
theorem exists_blanks (cs : List Char) :
    ∃ front back, cs = front ++ trim cs ++ back ∧ (∀ c ∈ front, isBlank c = true) ∧
      (∀ c ∈ back, isBlank c = true) ∧ (∀ c ∈ (trim cs).head?, isBlank c = false) ∧
      ∀ c ∈ (trim cs).getLast?, isBlank c = false := by
  obtain ⟨front, hf, hfb, hfe⟩ := exists_dropWhile isBlank cs
  obtain ⟨back, hb, hbb, hbe⟩ := exists_dropWhile isBlank (trimStart cs).reverse
  have hs : trimStart cs = trim cs ++ back.reverse := by
    have := congrArg List.reverse hb
    rwa [List.reverse_reverse, List.reverse_append] at this
  refine ⟨front, back.reverse, ?_, hfb, fun c hc => hbb c (List.mem_reverse.1 hc), ?_, ?_⟩
  · rw [List.append_assoc, ← hs]
    exact hf
  · intro c hc
    refine hfe c ?_
    have : (cs.dropWhile isBlank) = trim cs ++ back.reverse := hs
    rw [this, List.head?_append, Option.mem_def.1 hc]
    rfl
  · intro c hc
    refine hbe c ?_
    rwa [trim, trimEnd, List.getLast?_reverse] at hc

theorem not_mem_of_forall_isBlank (h : ∀ a ∈ cs, isBlank a = true) (hc : isBlank c = false) :
    c ∉ cs := fun hm => absurd ((h c hm).symm.trans hc) (by decide)

theorem isBlank_head_trim (h : c ∈ (trim cs).head?) : isBlank c = false := by
  obtain ⟨-, -, -, -, -, hh, -⟩ := exists_blanks cs
  exact hh c h

theorem isBlank_getLast_trim (h : c ∈ (trim cs).getLast?) : isBlank c = false := by
  obtain ⟨-, -, -, -, -, -, hl⟩ := exists_blanks cs
  exact hl c h

theorem trim_trim (cs : List Char) : trim (trim cs) = trim cs :=
  trim_eq_self (fun _ => isBlank_head_trim) fun _ => isBlank_getLast_trim

/-- Trimming keeps a first character that is visible. -/
theorem head?_trim (h : cs.head? = some c) (visible : isBlank c = false) :
    (trim cs).head? = some c := by
  obtain ⟨front, back, hcs, hf, hb, -, -⟩ := exists_blanks cs
  have not_blank : ∀ blanks : List Char, (∀ b ∈ blanks, isBlank b = true) →
      blanks.head? ≠ some c := fun _ hbs hc =>
    not_mem_of_forall_isBlank hbs visible (List.mem_of_mem_head? hc)
  rw [hcs, List.append_assoc] at h
  cases front with
  | cons b front => exact absurd h (not_blank (b :: front) hf)
  | nil =>
      rw [List.nil_append] at h
      cases ht : trim cs with
      | nil =>
          rw [ht] at h
          exact absurd h (not_blank back hb)
      | cons a as =>
          rw [ht] at h
          exact h

theorem trim_blank_cons (h : isBlank c = true) : trim (c :: cs) = trim cs := by
  rw [trim, trimStart, List.dropWhile_cons, if_pos h]
  rfl

/-! ### Blanks around a text -/

variable {front back xs : List Char}

theorem exists_trimEnd (cs : List Char) :
    ∃ back, cs = trimEnd cs ++ back ∧ ∀ c ∈ back, isBlank c = true := by
  obtain ⟨back, hb, blank, -⟩ := exists_dropWhile isBlank cs.reverse
  refine ⟨back.reverse, ?_, fun c hc => blank c (List.mem_reverse.1 hc)⟩
  rw [trimEnd, ← List.reverse_append, ← hb, List.reverse_reverse]

theorem trimEnd_append (he : ∀ c ∈ xs.getLast?, isBlank c = false) (cs : List Char) :
    trimEnd (xs ++ cs) = xs ++ trimEnd cs := by
  have last : xs.reverse.dropWhile isBlank = xs.reverse :=
    dropWhile_eq_self (by rwa [List.head?_reverse])
  rw [trimEnd, trimEnd, List.reverse_append, List.dropWhile_append]
  split
  · rename_i hb
    rw [last, List.isEmpty_iff.1 hb, List.reverse_nil, List.append_nil, List.reverse_reverse]
  · rw [List.reverse_append, List.reverse_reverse]

/-- Behind a text with visible ends, blanks are trimmed at the end only. -/
theorem trim_append (hf : ∀ c ∈ front, isBlank c = true) (hne : xs ≠ [])
    (hs : ∀ c ∈ xs.head?, isBlank c = false) (he : ∀ c ∈ xs.getLast?, isBlank c = false)
    (cs : List Char) : trim (front ++ xs ++ cs) = xs ++ trimEnd cs := by
  have start : trimStart (front ++ xs ++ cs) = xs ++ cs := by
    obtain ⟨a, as, rfl⟩ := List.exists_cons_of_ne_nil hne
    rw [trimStart, List.append_assoc, List.dropWhile_append_of_pos hf]
    exact dropWhile_eq_self hs
  rw [trim, start, trimEnd_append he]

/-- What comes behind a text that is not blank leaves its first visible character the first. -/
theorem head?_trim_append (hne : trim xs ≠ []) (cs : List Char) :
    (trim (xs ++ cs)).head? = (trim xs).head? := by
  obtain ⟨front, back, hxs, hf, -, hs, he⟩ := exists_blanks xs
  have split : xs ++ cs = front ++ trim xs ++ (back ++ cs) :=
    (congrArg (· ++ cs) hxs).trans (by simp)
  obtain ⟨a, as, ht⟩ := List.exists_cons_of_ne_nil hne
  rw [split, trim_append hf hne hs he, ht]
  rfl

/-- Trimming takes off the blanks around a text with visible ends. -/
theorem trim_between (hf : ∀ c ∈ front, isBlank c = true) (hb : ∀ c ∈ back, isBlank c = true)
    (hs : ∀ c ∈ cs.head?, isBlank c = false) (he : ∀ c ∈ cs.getLast?, isBlank c = false) :
    trim (front ++ cs ++ back) = cs := by
  by_cases hne : cs = []
  · subst hne
    have none : (front ++ [] ++ back).dropWhile isBlank = [] :=
      List.dropWhile_eq_nil_iff.2 (by simpa [or_imp, forall_and] using ⟨hf, hb⟩)
    rw [trim, trimStart, none]
    rfl
  · have none : trimEnd back = [] := by
      rw [trimEnd, List.dropWhile_eq_nil_iff.2 fun c hc => hb c (List.mem_reverse.1 hc)]
      rfl
    rw [trim_append hf hne hs he, none, List.append_nil]

theorem trim_around (hf : ∀ c ∈ front, isBlank c = true) (hb : ∀ c ∈ back, isBlank c = true)
    (cs : List Char) : trim (front ++ cs ++ back) = trim cs := by
  obtain ⟨front', back', hcs, hf', hb', hh, hl⟩ := exists_blanks cs
  have grouped : front ++ cs ++ back = (front ++ front') ++ trim cs ++ (back' ++ back) := by
    rw [hcs, trim_between hf' hb' hh hl]
    simp
  rw [grouped]
  exact trim_between (List.forall_mem_append.2 ⟨hf, hf'⟩) (List.forall_mem_append.2 ⟨hb', hb⟩) hh hl

theorem trim_blanks_append (hf : ∀ c ∈ front, isBlank c = true) (cs : List Char) :
    trim (front ++ cs) = trim cs := by
  have none : ∀ c ∈ ([] : List Char), isBlank c = true := by simp
  exact (congrArg trim (List.append_nil _)).symm.trans (trim_around hf none cs)

theorem trim_append_blanks (hb : ∀ c ∈ back, isBlank c = true) (cs : List Char) :
    trim (cs ++ back) = trim cs := by
  have none : ∀ c ∈ ([] : List Char), isBlank c = true := by simp
  exact trim_around none hb cs

theorem trim_trimEnd (cs : List Char) : trim (trimEnd cs) = trim cs := by
  obtain ⟨back, hcs, hb⟩ := exists_trimEnd cs
  exact (trim_append_blanks hb (trimEnd cs)).symm.trans (congrArg trim hcs.symm)

/-- Trimming keeps what is visible. -/
theorem mem_trim (h : c ∈ cs) (visible : isBlank c = false) : c ∈ trim cs := by
  obtain ⟨front, back, hcs, hf, hb, -, -⟩ := exists_blanks cs
  have hfront := not_mem_of_forall_isBlank hf visible
  have hback := not_mem_of_forall_isBlank hb visible
  rw [hcs] at h
  simpa [hfront, hback] using h

end TypeCatalog.Text
