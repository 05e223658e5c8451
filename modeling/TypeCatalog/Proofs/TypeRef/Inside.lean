import TypeCatalog.Proofs.Text.Joined
import TypeCatalog.Proofs.TypeRef.Reread

/-! # Type references — a reference inside another

A reference means the same wherever it is written: in the brackets of an array container, of
`Optional` or of a tuple, and after the colon of a type variable.  A text that is refused on its own
is refused in the brackets of a container and of `Optional`, and as a bound.

To be put in brackets, a text has to be one argument: its brackets balance, and no comma stands
outside them.  Texts that stand for references are arguments, by induction on the grammar.  The
other way round, a text in brackets could have its brackets paired up with those around it, as in
`list[a] | list[b]`.  Then the whole is a union whose first member holds the bracket that opens and
whose last member the one that closes; neither is `None`, and such unions are refused.

* `Denotes.congr`: blanks at the ends of a text do not matter.
* `isArgument_of_denotes`: a text that stands for a reference is one argument.
* `denotes_group_iff`, `denotes_bounded_iff`: what a text stands for in brackets and as a bound.
* `ofText_inside`: the same for what is read.
-/

namespace TypeCatalog.TypeRef

open Text

variable {text : List Char} {r : TypeRef} {w : Wrapper}

/-! ### Blanks at the ends -/

theorem Plain.congr {other source : List Char} (ht : trim text = trim other)
    (h : Plain text source) : Plain other source :=
  ⟨ht.symm.trans h.trim_eq, h.ne_nil, h.head_ne, h.balanced⟩

theorem Single.congr {other source : List Char} (ht : trim text = trim other)
    (h : Single text source) : Single other source :=
  ⟨h.toPlain.congr ht, h.no_bar⟩

theorem Subscript.congr {other : List Char} {base : String} {args : List (List Char)}
    (ht : trim text = trim other) (h : Subscript text base args) : Subscript other base args := by
  cases h with
  | mk single first dotted pieces visible =>
      exact .mk (single.congr ht) first dotted pieces visible

theorem Written.congr {other : List Char} {p : Production} (ht : trim text = trim other)
    (h : Written text p) : Written other p := by
  cases h with
  | unbounded tilde first identifier => exact .unbounded (ht.symm.trans tilde) first identifier
  | bounded tilde first identifier visible =>
      exact .bounded (ht.symm.trans tilde) first identifier visible
  | union plain pieces others none some => exact .union (plain.congr ht) pieces others none some
  | optional subscript name => exact .optional (subscript.congr ht) name
  | array subscript name => exact .array (subscript.congr ht) name
  | tuple subscript name dots => exact .tuple (subscript.congr ht) name dots
  | dropped subscript not_optional not_array not_tuple =>
      exact .dropped (subscript.congr ht) not_optional not_array not_tuple
  | primitive single => exact .primitive (single.congr ht)
  | name single dotted not_primitive => exact .name (single.congr ht) dotted not_primitive

/-- **Blanks at the ends of a text do not matter.** -/
theorem Denotes.congr {other : List Char} (ht : trim text = trim other) (h : Denotes text r) :
    Denotes other r := by
  cases h with
  | leaf h => exact .leaf (h.congr ht)
  | around h hr => exact .around (h.congr ht) hr

theorem denotes_congr {other : List Char} (ht : trim text = trim other) :
    Denotes text r ↔ Denotes other r := ⟨.congr ht, .congr ht.symm⟩

theorem denotes_trim : Denotes (trim text) r ↔ Denotes text r := denotes_congr (trim_trim text)

/-- A text that is written around another stands for what the other stands for, wrapped. -/
theorem denotes_around_iff {inner : List Char} (h : Written text (.around w inner)) :
    Denotes text r ↔ ∃ s, Denotes inner s ∧ r = w.wrap s := by
  constructor
  · intro hr
    -- a text is written in one way only
    have only : ∀ {p}, Written text p → p = .around w inner := fun hp =>
      Except.ok.inj ((production_eq_ok_iff.2 hp).symm.trans (production_eq_ok_iff.2 h))
    cases hr with
    | leaf h' => cases only h'
    | around h' hs =>
        cases only h'
        exact ⟨_, hs, rfl⟩
  · rintro ⟨s, hs, rfl⟩
    exact .around h hs

theorem exists_written (h : Denotes text r) : ∃ p, Written text p := by
  cases h with
  | leaf h => exact ⟨_, h⟩
  | around h _ => exact ⟨_, h⟩

theorem visible_of_denotes (h : Denotes text r) : trim text ≠ [] := by
  intro ht
  have read := read_of_denotes h
  rw [read_eq, production, ht] at read
  cases read

/-! ### Arguments -/

/-- A text that is one argument where it stands in brackets. -/
structure IsArgument (cs : List Char) : Prop where
  balanced : Balanced cs
  inside : ¬ Outside ',' cs

namespace IsArgument

variable {cs ds : List Char}

theorem isPieces (h : IsArgument cs) : IsPieces ',' cs [cs] := isPieces_whole h.balanced h.inside

theorem append (hc : IsArgument cs) (hd : IsArgument ds) : IsArgument (cs ++ ds) :=
  ⟨hc.balanced.append hd.balanced, not_outside_append hc.balanced hc.inside hd.inside⟩

theorem of_trim (h : IsArgument (trim cs)) : IsArgument cs :=
  ⟨balanced_trim_iff.1 h.balanced, not_outside_of_trim (by decide) h.balanced h.inside⟩

theorem of_isName (h : IsName cs) : IsArgument cs := ⟨h.balanced, h.not_outside (by decide)⟩

/-- So is whatever stands in brackets that it balances. -/
theorem of_balanced (h : Balanced cs) : IsArgument ('[' :: (cs ++ [']'])) :=
  ⟨h.group, not_outside_group (by simp [IsBracket]) h⟩

theorem singleton {c : Char} (hb : ¬ IsBracket c) (hc : c ≠ ',') : IsArgument [c] :=
  ⟨balanced_of_forall (by simpa using hb), not_outside_of_not_mem (by simpa using hc.symm)⟩

end IsArgument

theorem isArgument_of_subscript {base : String} {args : List (List Char)}
    (h : Subscript text base args) : IsArgument text := by
  cases h with
  | @mk head body _ single first dotted pieces visible =>
      have inner : Balanced body := pieces.balanced_whole (by simp [IsBracket])
      have name : IsArgument head := .of_trim (.of_isName (isName_of_isDotted dotted))
      refine .of_trim ?_
      rw [single.trim_eq]
      exact name.append (.of_balanced inner)

/-- A text is one argument if the text inside it is, where there is one. -/
theorem isArgument_of_written {p : Production} (h : Written text p)
    (inside : ∀ w inner, p = .around w inner → IsArgument inner) : IsArgument text := by
  have tilde : IsArgument ['~'] := .singleton (by decide) (by decide)
  have colon : IsArgument [':'] := .singleton (by decide) (by decide)
  cases h with
  | @unbounded name ht first identifier =>
      have hn : IsArgument name := .of_trim (.of_isName (isName_of_isIdentifier identifier))
      exact .of_trim (ht ▸ tilde.append hn)
  | @bounded name bound ht first identifier visible =>
      have hn : IsArgument name := .of_trim (.of_isName (isName_of_isIdentifier identifier))
      have hb : IsArgument bound := inside _ _ rfl
      exact .of_trim (ht ▸ tilde.append (hn.append (colon.append hb)))
  | @union source member front back plain pieces others none some =>
      have members : ∀ p ∈ front ++ member :: back, IsArgument p := by
        intro p hp
        have hp : p = member ∨ p ∈ front ++ back := by
          simpa [or_left_comm, or_assoc] using hp
        rcases hp with rfl | hp
        · exact .of_trim (inside _ _ rfl)
        · have word : IsName "None".toList := isName_of_isDotted (by decide)
          exact .of_trim (none p hp ▸ .of_isName word)
      refine .of_trim ⟨plain.trim_eq ▸ plain.balanced, ?_⟩
      rw [plain.trim_eq, ← pieces.glue_eq]
      exact not_outside_glue (by simp [IsBracket]) (by decide) pieces.balanced
        fun p hp => (members p hp).inside
  | optional subscript _ => exact isArgument_of_subscript subscript
  | array subscript _ => exact isArgument_of_subscript subscript
  | tuple subscript _ _ => exact isArgument_of_subscript subscript
  | dropped subscript _ _ _ => exact isArgument_of_subscript subscript
  | @primitive p single =>
      exact .of_trim (single.trim_eq ▸ .of_isName (isName_of_isDotted (isDotted_spelling p)))
  | name single dotted _ =>
      exact .of_trim (single.trim_eq ▸ .of_isName (isName_of_isDotted dotted))

/-- **A text that stands for a reference is one argument.** -/
theorem isArgument_of_denotes (h : Denotes text r) : IsArgument text := by
  induction h with
  | leaf h => exact isArgument_of_written h fun _ _ he => by cases he
  | around h _ ih =>
      refine isArgument_of_written h fun _ _ he => ?_
      cases he
      exact ih

/-! ### In brackets -/

/-- `text` in brackets after `word`. -/
def group (word text : List Char) : List Char := word ++ '[' :: (text ++ [']'])

theorem getLast?_group (word text : List Char) : (group word text).getLast? = some ']' := by
  simp [group, List.getLast?_cons]

theorem head?_group {word : List Char} (h : IsName word) (text : List Char) :
    ∃ c, (group word text).head? = some c ∧ isBlank c = false ∧ c ≠ '~' := by
  obtain ⟨c, cs, rfl⟩ := List.exists_cons_of_ne_nil h.ne_nil
  refine ⟨c, rfl, h.visible c (by simp), ?_⟩
  rintro rfl
  exact h.head_ne rfl

theorem trim_group {word : List Char} (h : IsName word) :
    trim (group word text) = group word text := by
  obtain ⟨c, hc, visible, -⟩ := head?_group h text
  refine trim_eq_self (fun a ha => ?_) fun a ha => ?_
  · rw [hc] at ha
    obtain rfl := Option.some.inj ha
    exact visible
  · rw [getLast?_group] at ha
    obtain rfl := Option.some.inj ha
    decide

theorem not_isName_group (word text : List Char) : ¬ IsName (group word text) :=
  fun h => h.not_mem (c := ']') (by decide) (List.mem_of_getLast? (getLast?_group word text))

/-- No bracket stands in a member `None`. -/
theorem not_mem_of_trim_eq_none {p : List Char} {c : Char} (h : trim p = noneWord)
    (hc : IsBracket c) : c ∉ p := by
  intro hm
  have visible : isBlank c = false := by rcases hc with rfl | rfl <;> decide
  have hw := mem_trim hm visible
  rw [h] at hw
  rcases hc with rfl | rfl <;> exact absurd hw (by decide)

/-- The first member of what starts with a name and a bracket holds the bracket. -/
theorem open_mem_of_group {word first : List Char} {rest : List (List Char)} (hn : IsName word)
    (hr : rest ≠ []) (h : glue '|' (first :: rest) = group word text) : '[' ∈ first := by
  rw [glue_cons '|' first hr] at h
  rcases List.append_eq_append_iff.1 h with ⟨q, rfl, hq⟩ | ⟨q, rfl, hq⟩
  · -- the bar would be the bracket, or stand in the name
    rcases List.cons_eq_append_iff.1 hq with ⟨rfl, hq⟩ | ⟨q, rfl, -⟩
    · cases hq
    · exact absurd (by simp) (hn.not_mem (c := '|') (by decide))
  · rcases List.cons_eq_append_iff.1 hq with ⟨rfl, hq⟩ | ⟨q, rfl, -⟩
    · cases hq
    · simp

/-- The last member of what ends with a bracket holds the bracket. -/
theorem close_mem_of_group {word last : List Char} {rest : List (List Char)}
    (hr : rest ≠ []) (h : glue '|' (rest ++ [last]) = group word text) : ']' ∈ last := by
  have hl := getLast?_group word text
  rw [← h, glue_concat '|' last hr, List.getLast?_append_cons] at hl
  simpa using List.mem_of_getLast? hl

/-- A name with brackets after it is no union with `None`, however the brackets pair up. -/
theorem others_eq_nil_of_group {word member : List Char} {front back : List (List Char)}
    (hn : IsName word) (h : glue '|' (front ++ member :: back) = group word text)
    (none : ∀ p ∈ front ++ back, trim p = noneWord) : front ++ back = [] := by
  cases front with
  | cons first front =>
      have hm := open_mem_of_group hn (by simp) h
      exact absurd hm (not_mem_of_trim_eq_none (none first (by simp)) (.inl rfl))
  | nil =>
      rcases List.eq_nil_or_concat' back with rfl | ⟨back, last, rfl⟩
      · rfl
      · have hm := close_mem_of_group (List.cons_ne_nil member back) h
        exact absurd hm (not_mem_of_trim_eq_none (none last (by simp)) (.inr rfl))

/-- The brackets after a name hold the arguments. -/
theorem pieces_of_subscript {word : List Char} {base : String} {args : List (List Char)}
    (hn : IsName word) (h : Subscript (group word text) base args) :
    IsPieces ',' text args ∧ ∀ a ∈ args, trim a ≠ [] := by
  cases h with
  | @mk head body _ single first dotted pieces visible =>
      have split : group word text = group head body := (trim_group hn).symm.trans single.trim_eq
      have hw := takeWhile_of_first (text ++ [']']) (hn.not_mem (c := '[') (by decide))
      have hh := takeWhile_of_first (body ++ [']']) first
      have after : '[' :: (text ++ [']']) = '[' :: (body ++ [']']) :=
        hw.2.symm.trans ((congrArg (List.dropWhile (· != '[')) split).trans hh.2)
      obtain rfl : text = body := by simpa using after
      exact ⟨pieces, visible⟩

/-- **What stands in brackets after a name is a list of arguments.** -/
theorem exists_arguments {word : List Char} {p : Production} (hn : IsName word)
    (h : Written (group word text) p) :
    ∃ args, IsPieces ',' text args ∧ ∀ a ∈ args, trim a ≠ [] := by
  have head : ∀ {body}, trim (group word text) ≠ '~' :: body := by
    intro body ht
    obtain ⟨c, hc, -, hne⟩ := head?_group hn text
    rw [← trim_group hn, ht] at hc
    exact hne (Option.some.inj hc).symm
  cases h with
  | unbounded tilde _ _ => exact absurd tilde head
  | bounded tilde _ _ _ => exact absurd tilde head
  | union plain pieces others none _ =>
      have source := pieces.glue_eq.trans (plain.trim_eq.symm.trans (trim_group hn))
      exact absurd (others_eq_nil_of_group hn source none) others
  | optional subscript _ => exact ⟨_, pieces_of_subscript hn subscript⟩
  | array subscript _ => exact ⟨_, pieces_of_subscript hn subscript⟩
  | tuple subscript _ _ => exact ⟨_, pieces_of_subscript hn subscript⟩
  | dropped subscript _ _ _ => exact ⟨_, pieces_of_subscript hn subscript⟩
  | @primitive p single =>
      have ht := (trim_group hn).symm.trans single.trim_eq
      exact absurd (ht ▸ isName_of_isDotted (isDotted_spelling p)) (not_isName_group word text)
  | name single dotted _ =>
      have ht := (trim_group hn).symm.trans single.trim_eq
      exact absurd (ht ▸ isName_of_isDotted dotted) (not_isName_group word text)

/-! ### One argument -/

/-- `base` takes one argument, and `w` is what it makes of it. -/
inductive TakesOne : String → Wrapper → Prop where
  | optional {base : String} (name : base ∈ optionalNames) : TakesOne base .same
  | array {base container : String} (name : (base, container) ∈ arrayContainers) :
      TakesOne base (.array container)

theorem isDotted_of_qualify {name : String} (h : isDotted (qualify name).toList = true) :
    isDotted name.toList = true := by
  have builtin : ∀ n ∈ builtinNames, isDotted n.toList = true := by decide +kernel
  by_cases hn : name ∈ builtinNames
  · exact builtin name hn
  · rwa [qualify_of_not_mem hn] at h

namespace TakesOne

variable {base : String}

theorem isDotted (h : TakesOne base w) : isDotted base.toList = true := by
  have optional : ∀ n ∈ optionalNames, Text.isDotted n.toList = true := by decide
  have array : ∀ e ∈ arrayContainers, Text.isDotted e.1.toList = true := by decide
  cases h with
  | optional name => exact optional base name
  | array name => exact array _ name

theorem written {arg : List Char} (h : TakesOne base w) (subscript : Subscript text base [arg]) :
    Written text (.around w (trim arg)) := by
  cases h with
  | optional name => exact .optional subscript name
  | array name => exact .array subscript name

/-- Any other number of arguments is refused. -/
theorem exists_argument {args : List (List Char)} {p : Production} (h : TakesOne base w)
    (hp : argumentProduction text base args = .ok p) : ∃ arg, args = [arg] := by
  unfold argumentProduction at hp
  cases h with
  | optional name =>
      rw [if_pos name] at hp
      split at hp
      · exact ⟨_, rfl⟩
      · cases hp
  | array name =>
      rw [if_neg (not_optional_of_array name), get?_arrayContainers.2 name] at hp
      dsimp only at hp
      split at hp
      · exact ⟨_, rfl⟩
      · cases hp

end TakesOne

variable {word : String}

/-- What a name that takes one argument has in its brackets is its argument. -/
theorem subscript_of_group (h : TakesOne (qualify word) w)
    (hr : Denotes (group word.toList text) r) :
    Subscript (group word.toList text) (qualify word) [text] := by
  have dotted := isDotted_of_qualify h.isDotted
  have hn := isName_of_isDotted dotted
  obtain ⟨p, hp⟩ := exists_written hr
  obtain ⟨args, pieces, visible⟩ := exists_arguments hn hp
  have subscript := subscript_of_pieces (trim_group hn) dotted pieces visible
  have read := (production_of_subscript subscript).symm.trans (production_eq_ok_iff.2 hp)
  obtain ⟨arg, harg⟩ := h.exists_argument read
  obtain ⟨a, rfl, -⟩ := List.map_eq_singleton_iff.1 harg
  obtain rfl : a = text := pieces.glue_eq
  exact subscript

theorem subscript_of_denotes (dotted : isDotted word.toList = true) (h : Denotes text r) :
    Subscript (group word.toList text) (qualify word) [text] :=
  subscript_of_pieces (trim_group (isName_of_isDotted dotted)) dotted
    (isArgument_of_denotes h).isPieces (by simpa using visible_of_denotes h)

/-- **What a text stands for in brackets** after a name that takes one argument. -/
theorem denotes_group_iff (h : TakesOne (qualify word) w) :
    Denotes (group word.toList text) r ↔ ∃ s, Denotes text s ∧ r = w.wrap s := by
  constructor
  · intro hr
    -- that the whole is accepted says that the text is the one argument
    have written := h.written (subscript_of_group h hr)
    simpa only [denotes_trim] using (denotes_around_iff written).1 hr
  · rintro ⟨s, hs, rfl⟩
    have subscript := subscript_of_denotes (isDotted_of_qualify h.isDotted) hs
    exact .around (h.written subscript) (denotes_trim.2 hs)

/-- A text that stands for a reference stands for the component of a tuple if dots follow it. -/
theorem denotes_tuple (hw : qualify word ∈ tupleNames) (h : Denotes text r) :
    Denotes (group word.toList (text ++ ", ...".toList)) (arrayOf "builtins.tuple" r) := by
  have all : ∀ n ∈ tupleNames, isDotted n.toList = true := by decide
  have dotted := isDotted_of_qualify (all _ hw)
  have dots : IsArgument " ...".toList :=
    ⟨balanced_of_forall (by simp [IsBracket]), not_outside_of_not_mem (by decide)⟩
  have pieces := (isArgument_of_denotes h).isPieces.append dots.isPieces
  have subscript := subscript_of_pieces (trim_group (isName_of_isDotted dotted)) dotted pieces
    (List.forall_mem_cons.2 ⟨visible_of_denotes h, by decide⟩)
  exact .around (.tuple subscript hw (by decide)) (denotes_trim.2 h)

/-! ### As a bound -/

/-- What a type variable of this name has in front of its bound. -/
inductive IsBinder : String → List Char → Prop where
  | mk {front name : List Char} (blank : ∀ c ∈ front, isBlank c = true) (first : ':' ∉ name)
      (identifier : isIdentifier (trim name) = true) :
      IsBinder (String.ofList (trim name)) (front ++ '~' :: (name ++ [':']))

/-- Trimming leaves the binder and what is left of the text behind it. -/
theorem trim_bounded {front : List Char} (blank : ∀ c ∈ front, isBlank c = true)
    (name text : List Char) :
    trim (front ++ '~' :: (name ++ [':']) ++ text) = '~' :: (name ++ ':' :: trimEnd text) := by
  have ends : isBlank '~' = false ∧ isBlank ':' = false := by decide
  have cut := trim_append blank (List.cons_ne_nil '~' (name ++ [':'])) (by simpa using ends.1)
    (by simpa [List.getLast?_cons] using ends.2) text
  simpa using cut

theorem isBinder_of_identifier {name : String} (h : isIdentifier name.toList = true) :
    IsBinder name ('~' :: (name.toList ++ [':'])) := by
  have hn := isName_of_isIdentifier h
  have nothing : ∀ c ∈ ([] : List Char), isBlank c = true := by simp
  have binder := IsBinder.mk nothing (hn.not_mem (by decide)) (hn.trim_eq.symm ▸ h)
  rwa [hn.trim_eq, String.ofList_toList] at binder

/-- **What a text stands for as the bound** of a type variable. -/
theorem denotes_bounded_iff {name : String} {binder : List Char} (h : IsBinder name binder) :
    Denotes (binder ++ text) r ↔ ∃ s, Denotes text s ∧ r = typeVariable name (some s) := by
  cases h with
  | @mk front name blank first identifier =>
      have tilde := trim_bounded blank name text
      have same := trim_trimEnd text
      by_cases hv : trim text = []
      · -- a colon with nothing after it is refused, and so is nothing
        refine iff_of_false (fun h => ?_) fun ⟨s, hs, _⟩ => visible_of_denotes hs hv
        obtain ⟨ht, hd⟩ := takeWhile_of_first (trimEnd text) first
        have hn : variableName (name ++ ':' :: trimEnd text) = trim name := by
          rw [variableName, ht]
        have read := read_of_denotes h
        rw [read_eq, production_of_tilde tilde, variableProduction, hn, if_pos identifier,
          hd] at read
        dsimp only at read
        rw [if_pos (same.trans hv)] at read
        cases read
      · have written := Written.bounded tilde first identifier fun h => hv (same.symm.trans h)
        simp only [denotes_around_iff written, denotes_congr same]
        rfl

/-! ### Reading -/

theorem toList_group (head text : String) :
    (head ++ "[" ++ text ++ "]").toList = group head.toList text.toList := by
  simp [String.toList_append, group]

/-- **A reference inside another.**  In the brackets of a container and of `Optional`, and after the
colon of a type variable, a text is accepted just if it is accepted on its own, and is read as what
it is read as on its own.  In the brackets of a tuple, with dots after it, an accepted text is the
component.  A text whose brackets do not balance is refused, also in the brackets of any name.  A
text with a comma outside brackets is refused on its own, and so where it has to be one argument. -/
theorem ofText_inside (text : String) :
    (∀ head container, (qualify head, container) ∈ arrayContainers → ∀ r,
      (ofText (head ++ "[" ++ text ++ "]") = .ok r ↔
        ∃ s, ofText text = .ok s ∧ r = arrayOf container s)) ∧
    (∀ head, qualify head ∈ optionalNames → ∀ r,
      (ofText (head ++ "[" ++ text ++ "]") = .ok r ↔ ofText text = .ok r)) ∧
    (∀ name : String, isIdentifier name.toList = true → ∀ r,
      (ofText ("~" ++ name ++ ": " ++ text) = .ok r ↔
        ∃ s, ofText text = .ok s ∧ r = typeVariable name (some s))) ∧
    (∀ head, qualify head ∈ tupleNames → ∀ s, ofText text = .ok s →
      ofText (head ++ "[" ++ text ++ ", ...]") = .ok (arrayOf "builtins.tuple" s)) ∧
    (¬ Balanced text.toList ∨ Outside ',' text.toList → ∀ r, ofText text ≠ .ok r) ∧
    (¬ Balanced text.toList → ∀ head : String, isDotted head.toList = true → ∀ r,
      ofText (head ++ "[" ++ text ++ "]") ≠ .ok r) := by
  simp only [ofText, read_eq_ok_iff, toList_group]
  refine ⟨fun head container hc r => denotes_group_iff (.array hc), fun head ho r => ?_,
    fun name identifier r => ?_, fun head ht s hs => ?_, fun hbad r hr => ?_,
    fun hbad head dotted r hr => ?_⟩
  · simpa [Wrapper.wrap] using denotes_group_iff (.optional ho)
  · -- the bound is read with the blank that follows the colon
    have blank : trim (' ' :: text.toList) = trim text.toList := trim_blank_cons (by decide)
    have source : ("~" ++ name ++ ": " ++ text).toList
        = '~' :: (name.toList ++ [':']) ++ ' ' :: text.toList := by
      simp [String.toList_append]
    rw [source]
    simp only [denotes_bounded_iff (isBinder_of_identifier identifier), denotes_congr blank]
  · have source : (head ++ "[" ++ text ++ ", ...]").toList
        = group head.toList (text.toList ++ ", ...".toList) := by
      simp [String.toList_append, group]
    exact source ▸ denotes_tuple ht hs
  · have ha := isArgument_of_denotes (denotes_of_read hr)
    exact hbad.elim (· ha.balanced) ha.inside
  · obtain ⟨p, hp⟩ := exists_written (denotes_of_read hr)
    obtain ⟨args, pieces, -⟩ := exists_arguments (isName_of_isDotted dotted) hp
    exact hbad (pieces.balanced_whole (by simp [IsBracket]))

end TypeCatalog.TypeRef
