/-! # Text — codes, and halves of pairs

A text is known by its codes.  Where escapes give them in units of sixteen bits, a character beyond
the first plane takes two, the halves of a pair, and one half may be written without the other.  It
is no character then; it is held as one of the last plane.  The characters of that plane whose
places are taken in this way stand with a mark in front of them, and so does the mark itself.

* `codes`: the codes of characters that may hold halves.
* `held`: how characters are held that are none but themselves.
* `codes_held`: what is held has the codes of the characters.
* `codes_inj`: what is held is known by its codes.
* `IsBefore`: the order of texts by their codes.
* `precedes`: the test for it, by which texts can be sorted.
-/

namespace TypeCatalog.Text

def isUpperHalf (n : Nat) : Bool := decide (0xD800 ≤ n) && decide (n < 0xDC00)

def isLowerHalf (n : Nat) : Bool := decide (0xDC00 ≤ n) && decide (n < 0xE000)

def isHalf (n : Nat) : Bool := isUpperHalf n || isLowerHalf n

theorem isHalf_iff {n : Nat} : isHalf n = true ↔ 0xD800 ≤ n ∧ n < 0xE000 := by
  simp only [isHalf, isUpperHalf, isLowerHalf, Bool.or_eq_true, Bool.and_eq_true, decide_eq_true_eq]
  omega

/-- The code of the two halves of a pair. -/
def pairCode (upper lower : Nat) : Nat := 0x10000 + (upper - 0xD800) * 0x400 + (lower - 0xDC00)

/-! ### Holding codes -/

/-- How far the characters that hold halves are from the halves. -/
def halfShift : Nat := 0x100000

/-- What stands in front of a character that holds no half but could. -/
def mark : Char := Char.ofNat 0x10E000

/-- A character that is held with a mark: one of those that hold halves, or the mark. -/
def isTaken (c : Char) : Bool := decide (0x10D800 ≤ c.toNat) && decide (c.toNat ≤ 0x10E000)

/-- How one character is held. -/
def hold (c : Char) : List Char := if isTaken c then [mark, c] else [c]

/-- How characters are held. -/
def held (cs : List Char) : List Char := cs.flatMap hold

/-- What holds the code `n`, which may be that of a half. -/
def ofCode (n : Nat) : List Char :=
  if isHalf n then [Char.ofNat (n + halfShift)] else hold (Char.ofNat n)

/-- The code that a mark has by itself.  No text that is held has it. -/
def strayCode : Nat := 0x110000

/-- The code of a character that stands without a mark. -/
def unmarkedCode (c : Char) : Nat :=
  if c = mark then strayCode else if isTaken c then c.toNat - halfShift else c.toNat

/-- The codes that characters hold. -/
def codes : List Char → List Nat
  | []           => []
  | [c]          => [unmarkedCode c]
  | c :: d :: cs =>
      if c = mark ∧ isTaken d then d.toNat :: codes cs else unmarkedCode c :: codes (d :: cs)

/-- There is no half by itself in a text. -/
def isWhole (s : String) : Bool := (codes s.toList).all fun n => !isHalf n

/-- A text with signs for what cannot be encoded in place of its halves. -/
def lossy (s : String) : String :=
  String.ofList ((codes s.toList).flatMap fun n =>
    if isHalf n then ['\ufffd', '\ufffd', '\ufffd'] else ofCode n)

/-- How many bytes it takes to encode a code; some halves stand for bytes that are no text. -/
def codeBytes (n : Nat) : Nat :=
  if n < 0x80 ∨ (0xDC80 ≤ n ∧ n < 0xDD00) then 1
  else if n < 0x800 then 2
  else if n < 0x10000 then 3
  else 4

/-- How many bytes a text takes as the name of a file. -/
def byteSize (cs : List Char) : Nat := (codes cs).foldl (fun n c => n + codeBytes c) 0

/-- The text that bytes encode. -/
def ofBytes? (bs : List UInt8) : Option String :=
  (String.fromUTF8? ⟨bs.toArray⟩).map fun s => String.ofList (held s.toList)

/-- The first of what characters hold. -/
def firstHeld : List Char → List Char
  | c :: d :: _ => if c = mark ∧ isTaken d then [c, d] else [c]
  | cs          => cs

/-! ### What is held can be read off -/

theorem toNat_mark : mark.toNat = 0x10E000 := rfl

theorem isTaken_mark : isTaken mark = true := rfl

theorem isTaken_iff {c : Char} : isTaken c = true ↔ 0x10D800 ≤ c.toNat ∧ c.toNat ≤ 0x10E000 := by
  rw [isTaken, Bool.and_eq_true, decide_eq_true_eq, decide_eq_true_eq]

theorem eq_mark_iff {c : Char} : c = mark ↔ c.toNat = 0x10E000 := by
  rw [← Char.toNat_inj, toNat_mark]

theorem codes_hold_append (c : Char) (cs : List Char) :
    codes (hold c ++ cs) = c.toNat :: codes cs := by
  by_cases h : isTaken c = true
  · rw [hold, if_pos h]
    exact if_pos ⟨rfl, h⟩
  · have hm : c ≠ mark := fun e => h (e ▸ isTaken_mark)
    have hc : unmarkedCode c = c.toNat := by rw [unmarkedCode, if_neg hm, if_neg h]
    rw [hold, if_neg h]
    cases cs with
    | nil       => exact congrArg (· :: []) hc
    | cons d ds =>
        show (if c = mark ∧ isTaken d then _ else _) = _
        rw [if_neg fun e => hm e.1, hc]

/-- Characters that are held have their own codes. -/
theorem codes_held (cs : List Char) : codes (held cs) = cs.map Char.toNat := by
  induction cs with
  | nil          => rfl
  | cons c cs ih => rw [held, List.flatMap_cons, codes_hold_append, ← held, ih, List.map_cons]

/-- What holds the codes `ns`. -/
def ofCodes (ns : List Nat) : List Char :=
  ns.flatMap fun n => if n = strayCode then [mark] else ofCode n

theorem ofCodes_cons (n : Nat) (ns : List Nat) :
    ofCodes (n :: ns) = (if n = strayCode then [mark] else ofCode n) ++ ofCodes ns := rfl

theorem ofCode_toNat {c : Char} (h : isTaken c = true) : ofCode c.toNat = [mark, c] := by
  have range := isTaken_iff.1 h
  have whole : ¬ isHalf c.toNat = true := by rw [isHalf_iff]; omega
  rw [ofCode, if_neg whole, Char.ofNat_toNat, hold, if_pos h]

theorem ofCode_unmarkedCode {c : Char} (h : c ≠ mark) : ofCode (unmarkedCode c) = [c] := by
  rw [unmarkedCode, if_neg h]
  have hs : halfShift = 0x100000 := rfl
  split
  · rename_i taken
    have range := isTaken_iff.1 taken
    have other := mt eq_mark_iff.2 h
    have half : isHalf (c.toNat - halfShift) = true := by rw [isHalf_iff]; omega
    rw [ofCode, if_pos half, Nat.sub_add_cancel (by omega), Char.ofNat_toNat]
  · rename_i free
    have own : c.toNat < 0xD800 ∨ 0xE000 ≤ c.toNat := c.valid.imp_right And.left
    have whole : ¬ isHalf c.toNat = true := by rw [isHalf_iff]; omega
    rw [ofCode, if_neg whole, Char.ofNat_toNat, hold, if_neg free]

theorem toNat_lt (c : Char) : c.toNat < strayCode := by
  have h : c.toNat < 0xD800 ∨ 0xDFFF < c.toNat ∧ c.toNat < 0x110000 := c.valid
  have hs : strayCode = 0x110000 := rfl
  omega

/-- What a character by itself gives back. -/
theorem ofCodes_unmarkedCode (c : Char) :
    (if unmarkedCode c = strayCode then [mark] else ofCode (unmarkedCode c)) = [c] := by
  by_cases h : c = mark
  · rw [h]
    rfl
  · have hlt := toNat_lt c
    have hne : unmarkedCode c ≠ strayCode := by
      rw [unmarkedCode, if_neg h]
      split <;> omega
    rw [if_neg hne, ofCode_unmarkedCode h]

/-- Characters are known by the codes they hold. -/
theorem ofCodes_codes (cs : List Char) : ofCodes (codes cs) = cs := by
  induction cs using codes.induct with
  | case1 => rfl
  | case2 c => simp only [codes, ofCodes_cons, ofCodes_unmarkedCode]; rfl
  | case3 c d cs h ih =>
      have hne : d.toNat ≠ strayCode := Nat.ne_of_lt (toNat_lt d)
      rw [codes, if_pos h, ofCodes_cons, if_neg hne, ofCode_toNat h.2, ih, h.1]
      rfl
  | case4 c d cs h ih => rw [codes, if_neg h, ofCodes_cons, ofCodes_unmarkedCode, ih]; rfl

/-- A text is known by its codes. -/
theorem codes_inj {s t : String} (h : codes s.toList = codes t.toList) : s = t := by
  refine String.toList_inj.1 ?_
  rw [← ofCodes_codes s.toList, h, ofCodes_codes]

/-! ### The order of texts -/

/-- The codes of `s` come before those of `t`: at the first place where they differ, or where those
of `s` end. -/
def IsBefore (s t : String) : Prop := List.Lex (· < ·) (codes s.toList) (codes t.toList)

/-- `t` does not come before `s`. -/
def precedes (s t : String) : Bool :=
  !(codes t.toList).lex (codes s.toList) fun m n => decide (m < n)

theorem precedes_iff {s t : String} : precedes s t = true ↔ ¬ IsBefore t s := by
  rw [precedes, Bool.not_eq_true', ← Bool.not_eq_true, List.lex_eq_true_iff_lex]
  simp only [decide_eq_true_eq, IsBefore]

theorem IsBefore.irrefl (s : String) : ¬ IsBefore s s := List.lt_irrefl (codes s.toList)

theorem IsBefore.trans {s t u : String} (h : IsBefore s t) (h' : IsBefore t u) : IsBefore s u :=
  @List.lt_trans Nat _ _ (codes s.toList) (codes t.toList) (codes u.toList) h h'

theorem IsBefore.asymm {s t : String} (h : IsBefore s t) : ¬ IsBefore t s :=
  fun h' => IsBefore.irrefl s (h.trans h')

/-- Of two texts one comes before the other. -/
theorem IsBefore.of_ne {s t : String} (hne : s ≠ t) (h : ¬ IsBefore t s) : IsBefore s t := by
  refine Classical.byContradiction fun h' => hne (codes_inj ?_)
  exact List.lex_trichotomous (fun m n => by omega) h h'

theorem precedes_total (s t : String) : (precedes s t || precedes t s) = true := by
  rw [Bool.or_eq_true, precedes_iff, precedes_iff]
  by_cases h : IsBefore t s
  · exact .inr h.asymm
  · exact .inl h

theorem precedes_trans {s t u : String} (h : precedes s t = true) (h' : precedes t u = true) :
    precedes s u = true := by
  rw [precedes_iff] at h h' ⊢
  intro hus
  by_cases hst : s = t
  · exact h' (hst ▸ hus)
  · exact h' (hus.trans (.of_ne hst h))

end TypeCatalog.Text
