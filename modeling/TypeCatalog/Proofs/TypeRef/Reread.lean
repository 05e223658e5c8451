import TypeCatalog.Proofs.Text.Joined
import TypeCatalog.Proofs.TypeRef.Shape
import TypeCatalog.TypeRef.Printer

/-! # Type references — reading what is printed

A printed reference starts and ends with visible characters, its brackets balance, and no comma or
bar stands outside them (`Tidy`).  So it stays in one piece wherever it is printed inside another
reference, and the reader meets it again as it was.

One thing is lost in print: a class is printed as its name, and the name of a primitive is read as
the primitive.  `reread` turns every class with such a name into the primitive.

* `tidy_print`: printed references are tidy.
* `denotes_of_trim`: a shaped reference, printed, stands for what `reread` makes of it.
* `ofText_print`: a well-formed reference is read back as it was.
* `ofText_print_of_ofText`: so is whatever has been read, if no class in it has the name of a
  primitive, and only then.
-/

namespace TypeCatalog.TypeRef

open Text

/-! ### Tidy texts -/

/-- A text that stays in one piece wherever it stands. -/
structure Tidy (cs : List Char) : Prop where
  ne_nil : cs ≠ []
  head : ∀ c ∈ cs.head?, isBlank c = false
  last : ∀ c ∈ cs.getLast?, isBlank c = false
  balanced : Balanced cs
  inside : ∀ sep ∈ [',', '|'], ¬ Outside sep cs

theorem Tidy.trim_eq {cs : List Char} (h : Tidy cs) : trim cs = cs := trim_eq_self h.head h.last

theorem Tidy.single {text cs : List Char} (h : Tidy cs) (ht : trim text = cs)
    (hh : cs.head? ≠ some '~') : Single text cs :=
  ⟨⟨ht, h.ne_nil, hh, h.balanced⟩, h.inside '|' (by simp)⟩

/-- A tidy text is one piece. -/
theorem Tidy.isPieces {cs : List Char} (h : Tidy cs) : IsPieces ',' cs [cs] :=
  isPieces_whole h.balanced (h.inside ',' (by simp))

theorem delimiter_of_mem {sep : Char} (h : sep ∈ [',', '|']) : sep ∈ delimiters := by
  simp only [List.mem_cons, List.not_mem_nil, or_false] at h
  rcases h with rfl | rfl <;> decide

theorem not_isBracket_of_mem {sep : Char} (h : sep ∈ [',', '|']) : ¬ IsBracket sep := by
  simp only [List.mem_cons, List.not_mem_nil, or_false] at h
  rcases h with rfl | rfl <;> simp [IsBracket]

theorem tidy_name {cs : List Char} (h : IsName cs) : Tidy cs where
  ne_nil := h.ne_nil
  head c hc := h.visible c (List.mem_of_mem_head? hc)
  last c hc := h.visible c (List.mem_of_getLast? hc)
  balanced := h.balanced
  inside _ hs := h.not_outside (delimiter_of_mem hs)

/-- A name with brackets after it is tidy, whatever balanced text the brackets hold. -/
theorem tidy_group {word body : List Char} (h : IsName word) (hb : Balanced body) :
    Tidy (word ++ '[' :: (body ++ [']'])) where
  ne_nil := by simp
  head c hc := by
    obtain ⟨a, as, rfl⟩ := List.exists_cons_of_ne_nil h.ne_nil
    obtain rfl := Option.some.inj hc
    exact h.visible a List.mem_cons_self
  last c hc := by
    have he : word ++ '[' :: (body ++ [']']) = (word ++ '[' :: body) ++ [']'] := by simp
    rw [he, List.getLast?_concat] at hc
    obtain rfl := Option.some.inj hc
    decide
  balanced := h.balanced.append hb.group
  inside sep hs := not_outside_append h.balanced (h.not_outside (delimiter_of_mem hs))
    (not_outside_group (not_isBracket_of_mem hs) hb)

/-- A tidy text stays tidy after anything that brings no bracket, comma or bar. -/
theorem Tidy.after (front : List Char) {cs : List Char} (h : Tidy cs)
    (hv : ∀ c ∈ front.head?, isBlank c = false) (hb : ∀ c ∈ front, ¬ IsBracket c)
    (hs : ∀ sep ∈ [',', '|'], sep ∉ front) : Tidy (front ++ cs) where
  ne_nil he := h.ne_nil (List.append_eq_nil_iff.1 he).2
  head c hc := by
    cases front with
    | nil => exact h.head c hc
    | cons a as => exact hv c hc
  last c hc := by
    rw [List.getLast?_append, List.getLast?_eq_some_getLast h.ne_nil, Option.some_or] at hc
    exact h.last c (List.getLast?_eq_some_getLast h.ne_nil ▸ hc)
  balanced := (balanced_of_forall hb).append h.balanced
  inside sep hm := not_outside_append (balanced_of_forall hb)
    (not_outside_of_not_mem (hs sep hm)) (h.inside sep hm)

theorem tidy_tilde {cs : List Char} (h : Tidy cs) : Tidy ('~' :: cs) := by
  have visible : isBlank '~' = false := by decide
  exact h.after ['~'] (by simpa using visible) (by simp [IsBracket]) (by simp)

theorem tidy_colon {cs : List Char} (h : Tidy cs) : Tidy (':' :: ' ' :: cs) := by
  have visible : isBlank ':' = false := by decide
  exact h.after [':', ' '] (by simpa using visible) (by simp [IsBracket]) (by simp)

theorem tidy_name_before {name cs : List Char} (hn : IsName name) (h : Tidy cs) :
    Tidy (name ++ cs) := by
  refine h.after name (fun c hc => hn.visible c (List.mem_of_mem_head? hc)) (fun c hc hb => ?_)
    fun sep hs => hn.not_mem (delimiter_of_mem hs)
  refine hn.no_delimiter c hc ?_
  rcases hb with rfl | rfl <;> decide

/-! ### Printing, kind by kind -/

/-- The arguments of a printed tuple: the component, and the dots. -/
def tupleArguments (component : List Char) : List (List Char) := [component, " ...".toList]

theorem print_primitive (p : Primitive) : print (ofPrimitive p) = p.spelling := by
  simp [ofPrimitive, print]

theorem print_class (name : String) : print (ofClass name) = name := by
  simp [ofClass, print]

theorem print_tuple (component : TypeRef) :
    (print (arrayOf "builtins.tuple" component)).toList
      = "tuple".toList ++ '[' :: (glue ',' (tupleArguments component.print.toList) ++ [']']) := by
  have hw : containerWord "builtins.tuple" = "tuple" := by decide
  rw [arrayOf, print, hw, if_pos rfl]
  simp [String.toList_append, glue, tupleArguments]

theorem print_array {container : String} (h : containerWord container ≠ "tuple")
    (component : TypeRef) :
    (print (arrayOf container component)).toList
      = (containerWord container).toList ++ '[' :: (component.print.toList ++ [']']) := by
  rw [arrayOf, print, if_neg h]
  simp [String.toList_append]

theorem print_unbounded (name : String) :
    (print (typeVariable name none)).toList = '~' :: name.toList := by
  rw [typeVariable, print]
  simp [String.toList_append]

theorem print_bounded (name : String) (bound : TypeRef) :
    (print (typeVariable name (some bound))).toList
      = '~' :: (name.toList ++ ':' :: ' ' :: bound.print.toList) := by
  rw [typeVariable, print]
  simp [String.toList_append]

/-! ### The words for containers -/

/-- Every container but one is a built-in type and printed bare. -/
theorem containerWord_cases {container : String} (h : container ∈ containers) :
    (containerWord container ∈ builtinNames ∧ "builtins." ++ containerWord container = container) ∨
      container = "collections.abc.Sequence" := by
  have bare : ∀ c ∈ containers, (containerWord c ∈ ["list", "set", "frozenset", "tuple"] ∧
      "builtins." ++ containerWord c = c) ∨ c = "collections.abc.Sequence" := by decide
  have builtin : ∀ word ∈ ["list", "set", "frozenset", "tuple"], word ∈ builtinNames := by
    simp [builtinNames]
  exact (bare container h).imp_left fun hc => ⟨builtin _ hc.1, hc.2⟩

/-- The word for a container stands for the container. -/
theorem qualify_containerWord {container : String} (h : container ∈ containers) :
    qualify (containerWord container) = container := by
  rcases containerWord_cases h with ⟨hw, hc⟩ | rfl
  · rw [qualify_of_mem hw, hc]
  · have hw : containerWord "collections.abc.Sequence" = "collections.abc.Sequence" := by decide
    rw [hw]
    exact qualify_of_not_mem (not_mem_builtinNames_of_dot (by decide))

theorem isDotted_containerWord {container : String} (h : container ∈ containers) :
    isDotted (containerWord container).toList = true := by
  have all : ∀ c ∈ containers, isDotted (containerWord c).toList = true := by decide
  exact all container h

/-- Tuples are printed in a way of their own, the other containers under a name of arrays. -/
theorem tuple_or_array {container : String} (h : container ∈ containers) :
    container = "builtins.tuple" ∨
      (containerWord container ≠ "tuple" ∧ (container, container) ∈ arrayContainers) := by
  have all : ∀ c ∈ containers, c = "builtins.tuple" ∨
      (containerWord c ≠ "tuple" ∧ (c, c) ∈ arrayContainers) := by decide
  exact all container h

theorem isDotted_spelling (p : Primitive) : isDotted p.spelling.toList = true := by
  cases p <;> decide

/-! ### Printed references are tidy -/

theorem mem_tupleArguments {p component : List Char} (h : p ∈ tupleArguments component) :
    p = component ∨ p = " ...".toList := by
  simpa [tupleArguments] using h

theorem isPieces_tupleArguments {component : List Char} (h : Tidy component) :
    IsPieces ',' (glue ',' (tupleArguments component)) (tupleArguments component) := by
  have dots : IsPieces ',' " ...".toList [" ...".toList] :=
    isPieces_whole (balanced_of_forall (by simp [IsBracket])) (not_outside_of_not_mem (by decide))
  exact h.isPieces.append dots

theorem visible_tupleArguments {component : List Char} (h : Tidy component) :
    ∀ a ∈ tupleArguments component, trim a ≠ [] := by
  intro a ha
  rcases mem_tupleArguments ha with rfl | rfl
  · rw [h.trim_eq]
    exact h.ne_nil
  · decide

/-- **A printed reference is tidy.** -/
theorem tidy_print {r : TypeRef} (h : Shaped r) : Tidy r.print.toList := by
  induction h with
  | primitive p =>
      rw [print_primitive]
      exact tidy_name (isName_of_isDotted (isDotted_spelling p))
  | classType dotted _ =>
      rw [print_class]
      exact tidy_name (isName_of_isDotted dotted)
  | array canonical _ ih =>
      rcases tuple_or_array canonical with rfl | ⟨ht, _⟩
      · rw [print_tuple]
        have hp := isPieces_tupleArguments ih
        exact tidy_group (isName_of_isDotted (by decide)) (hp.balanced_whole (by decide))
      · rw [print_array ht]
        exact tidy_group (isName_of_isDotted (isDotted_containerWord canonical)) ih.balanced
  | unbounded identifier =>
      rw [print_unbounded]
      have hn := isName_of_isIdentifier identifier
      exact tidy_tilde (tidy_name hn)
  | @bounded name _ identifier _ ih =>
      rw [print_bounded]
      have hn := isName_of_isIdentifier identifier
      exact tidy_tilde (tidy_name_before hn (tidy_colon ih))

/-! ### What a printed reference stands for -/

/-- The reference with every class that is named like a primitive turned into the primitive. -/
def reread : TypeRef → TypeRef
  | ⟨.classType, name, component, bound, as⟩ =>
      match Primitive.ofSpelling? name with
      | some _ => ⟨.primitive, name, component, bound, as⟩
      | none   => ⟨.classType, name, component, bound, as⟩
  | ⟨.array, container, some component, bound, as⟩ =>
      ⟨.array, container, some (reread component), bound, as⟩
  | ⟨.typeVariable, name, component, some bound, as⟩ =>
      ⟨.typeVariable, name, component, some (reread bound), as⟩
  | r => r

theorem reread_primitive (p : Primitive) : reread (ofPrimitive p) = ofPrimitive p := by
  simp [ofPrimitive, reread]

theorem reread_namesake (p : Primitive) : reread (ofClass p.spelling) = ofPrimitive p := by
  rw [ofClass, reread, Primitive.ofSpelling?_spelling]
  rfl

theorem reread_class {name : String} (h : ∀ p : Primitive, p.spelling ≠ name) :
    reread (ofClass name) = ofClass name := by
  rw [ofClass, reread, Primitive.ofSpelling?_eq_none_iff.2 h]

theorem reread_array (container : String) (component : TypeRef) :
    reread (arrayOf container component) = arrayOf container (reread component) := by
  rw [arrayOf, reread, arrayOf]

theorem reread_unbounded (name : String) :
    reread (typeVariable name none) = typeVariable name none := by
  simp [typeVariable, reread]

theorem reread_bounded (name : String) (bound : TypeRef) :
    reread (typeVariable name (some bound)) = typeVariable name (some (reread bound)) := by
  rw [typeVariable, reread, typeVariable]

/-- A dotted name stands for what `reread` makes of the class of that name. -/
theorem written_name {text : List Char} {name : String} (ht : trim text = name.toList)
    (dotted : isDotted name.toList = true) (qualified : qualify name = name) :
    Written text (.leaf (reread (ofClass name))) := by
  have hn := isName_of_isDotted dotted
  have single := (tidy_name hn).single ht hn.head_ne
  cases hp : Primitive.ofSpelling? name with
  | some p =>
      obtain rfl := Primitive.spelling_of_ofSpelling? hp
      rw [reread_namesake]
      exact .primitive single
  | none =>
      have others := Primitive.ofSpelling?_eq_none_iff.1 hp
      have written := Written.name single dotted fun p hs => others p (String.toList_inj.1 hs)
      rwa [String.ofList_toList, qualified, ← reread_class others] at written

/-- A dotted name with arguments in brackets is a subscript. -/
theorem subscript_of_pieces {text body : List Char} {word : String} {args : List (List Char)}
    (ht : trim text = word.toList ++ '[' :: (body ++ [']'])) (dotted : isDotted word.toList = true)
    (pieces : IsPieces ',' body args) (visible : ∀ a ∈ args, trim a ≠ []) :
    Subscript text (qualify word) args := by
  have hn := isName_of_isDotted dotted
  have tidy := tidy_group hn (pieces.balanced_whole (by decide))
  have hh : (word.toList ++ '[' :: (body ++ [']'])).head? ≠ some '~' := by
    obtain ⟨c, cs, hw⟩ := List.exists_cons_of_ne_nil hn.ne_nil
    have hc := hn.head_ne
    rwa [hw] at hc ⊢
  have subscript := Subscript.mk (tidy.single ht hh) (hn.not_mem (by decide))
    (by rwa [hn.trim_eq]) pieces visible
  rwa [hn.trim_eq, String.ofList_toList] at subscript

/-- **What a printed reference stands for**, also between blanks. -/
theorem denotes_of_trim {r : TypeRef} (h : Shaped r) :
    ∀ {text : List Char}, trim text = r.print.toList → Denotes text (reread r) := by
  induction h with
  | primitive p =>
      intro text ht
      rw [print_primitive] at ht
      rw [reread_primitive]
      have hn := isName_of_isDotted (isDotted_spelling p)
      exact .leaf (.primitive ((tidy_name hn).single ht hn.head_ne))
  | classType dotted qualified =>
      intro text ht
      rw [print_class] at ht
      exact .leaf (written_name ht dotted qualified)
  | @array container component canonical hc ih =>
      intro text ht
      rw [reread_array]
      have tidy := tidy_print hc
      -- arguments are trimmed once more, which changes nothing in a tidy text
      have inner := ih (trim_trim component.print.toList |>.trans tidy.trim_eq)
      rcases tuple_or_array canonical with rfl | ⟨hw, hm⟩
      · rw [print_tuple] at ht
        have subscript := subscript_of_pieces ht (by decide) (isPieces_tupleArguments tidy)
          (visible_tupleArguments tidy)
        exact .around (.tuple subscript (by decide) (by decide)) inner
      · rw [print_array hw] at ht
        have pieces := tidy.isPieces
        have subscript := subscript_of_pieces ht (isDotted_containerWord canonical) pieces
          (by simp [tidy.trim_eq, tidy.ne_nil])
        rw [qualify_containerWord canonical] at subscript
        exact .around (.array subscript hm) inner
  | @unbounded name identifier =>
      intro text ht
      rw [print_unbounded] at ht
      rw [reread_unbounded]
      have hn := isName_of_isIdentifier identifier
      have written := Written.unbounded ht (hn.not_mem (by decide)) (by rwa [hn.trim_eq])
      rw [hn.trim_eq, String.ofList_toList] at written
      exact .leaf written
  | @bounded name bound identifier hb ih =>
      intro text ht
      rw [print_bounded] at ht
      rw [reread_bounded]
      have hn := isName_of_isIdentifier identifier
      have tidy := tidy_print hb
      -- the bound is read with the blank that follows the colon
      have blank : trim (' ' :: bound.print.toList) = bound.print.toList :=
        (trim_blank_cons (by decide)).trans tidy.trim_eq
      have written := Written.bounded ht (hn.not_mem (by decide)) (by rwa [hn.trim_eq])
        (by rw [blank]; exact tidy.ne_nil)
      rw [hn.trim_eq, String.ofList_toList] at written
      exact .around written (ih blank)

/-! ### The round trip -/

/-- A shaped reference is left as it was if no class in it is named like a primitive, and only
then. -/
theorem reread_eq_self_iff {r : TypeRef} (h : Shaped r) : reread r = r ↔ NoNamesake r := by
  induction h with
  | primitive p => exact iff_of_true (reread_primitive p) (noNamesake_primitive p)
  | @classType name _ _ =>
      rw [noNamesake_class]
      constructor
      · rintro he p rfl
        rw [reread_namesake] at he
        exact TypeKind.noConfusion (congrArg TypeRef.kind he)
      · exact reread_class
  | array _ _ ih =>
      rw [noNamesake_array, ← ih, reread_array]
      simp [arrayOf]
  | unbounded _ => exact iff_of_true (reread_unbounded _) (noNamesake_unbounded _)
  | bounded _ _ ih =>
      rw [noNamesake_bounded, ← ih, reread_bounded]
      simp [typeVariable]

/-- What reading a printed reference gives. -/
theorem ofText_print_of_shaped {r : TypeRef} (h : Shaped r) : ofText r.print = .ok (reread r) :=
  read_of_denotes (denotes_of_trim h (tidy_print h).trim_eq)

/-- **A well-formed reference is read back as it was.** -/
theorem ofText_print {r : TypeRef} (h : WellFormed r) : ofText r.print = .ok r := by
  obtain ⟨hs, hn⟩ := wellFormed_iff.1 h
  rw [ofText_print_of_shaped hs, (reread_eq_self_iff hs).2 hn]

/-- Tuples of a type variable bounded by sequences of another. -/
def tupleOfBounded : TypeRef :=
  arrayOf "builtins.tuple" (typeVariable "T" (some
    (arrayOf "collections.abc.Sequence" (typeVariable "N" (some (ofClass "numbers.Real"))))))

theorem ofText_print_tupleOfBounded :
    WellFormed tupleOfBounded ∧ ofText tupleOfBounded.print = .ok tupleOfBounded := by
  have real : qualify "numbers.Real" = "numbers.Real" :=
    qualify_of_not_mem (not_mem_builtinNames_of_dot (by decide))
  have h : WellFormed tupleOfBounded :=
    .array (by decide) (.bounded (by decide) (.array (by decide) (.bounded (by decide)
      (.classType (by decide) real fun p => by cases p <;> decide))))
  exact ⟨h, ofText_print h⟩

/-- The name of a primitive with arguments is a class, as any name with arguments that is neither a
container nor `Optional`. -/
theorem denotes_int32_of_trim {text : List Char} (ht : trim text = "int32[str]".toList) :
    Denotes text (ofClass "int32") := by
  have argument : Tidy "str".toList := tidy_name (isName_of_isDotted (by decide))
  have bare : qualify "int32" = "int32" := qualify_of_not_mem (by simp [builtinNames])
  have source : "int32[str]".toList = "int32".toList ++ '[' :: ("str".toList ++ [']']) := by decide
  have subscript : Subscript text (qualify "int32") ["str".toList] :=
    subscript_of_pieces (ht.trans source) (by decide) argument.isPieces (by decide)
  rw [bare] at subscript
  refine .leaf (.dropped subscript (by decide) (fun container hc => ?_) fun hv => ?_)
  · simp [arrayContainers] at hc
  · exact absurd hv.1 (by decide)

theorem ofText_boundedNamesake :
    ofText "~T: int32[str]" = .ok (typeVariable "T" (some (ofClass "int32"))) := by
  have written : Written "~T: int32[str]".toList (.around (.bounds "T") " int32[str]".toList) :=
    @Written.bounded _ "T".toList _ (by decide) (by decide) (by decide) (by decide)
  exact read_of_denotes (.around written (denotes_int32_of_trim (by decide)))

/-- **What has been read, printed and read again** is what it was, with every class that is named
like a primitive turned into the primitive; so it is the same if there is no such class, and only
then. -/
theorem ofText_print_of_ofText {text : String} {r : TypeRef} (h : ofText text = .ok r) :
    ofText r.print = .ok (reread r) ∧ (ofText r.print = .ok r ↔ NoNamesake r) := by
  -- whatever has been read is shaped, so it may be printed and read as any shaped reference
  have shaped := shaped_of_denotes (denotes_of_read h)
  refine ⟨ofText_print_of_shaped shaped, ?_⟩
  rw [ofText_print_of_shaped shaped, Except.ok.injEq]
  exact reread_eq_self_iff shaped

theorem ofText_print_boundedNamesake :
    ofText "~T: int32[str]" = .ok (typeVariable "T" (some (ofClass "int32"))) ∧
      ofText (typeVariable "T" (some (ofClass "int32"))).print
        = .ok (typeVariable "T" (some (ofPrimitive .int))) := by
  have again := (ofText_print_of_ofText ofText_boundedNamesake).1
  rw [reread_bounded] at again
  exact ⟨ofText_boundedNamesake, again.trans (by rw [← reread_namesake .int]; rfl)⟩

/-- Reading what has been read and printed need not give it back. -/
theorem not_ofText_print_of_ofText :
    ¬ ∀ (text : String) (r : TypeRef), ofText text = .ok r → ofText r.print = .ok r := by
  intro h
  have denotes : Denotes "int32[str]".toList (ofClass "int32") :=
    denotes_int32_of_trim (by decide)
  have again := h "int32[str]" (ofClass "int32") (read_of_denotes denotes)
  rw [ofText_print_of_shaped (shaped_of_denotes denotes), Except.ok.injEq] at again
  exact TypeKind.noConfusion (congrArg TypeRef.kind ((reread_namesake .int).symm.trans again))

end TypeCatalog.TypeRef
