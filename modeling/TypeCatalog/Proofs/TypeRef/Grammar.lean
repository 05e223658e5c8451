import Mathlib.Data.List.TakeWhile
import TypeCatalog.Proofs.Text.Name
import TypeCatalog.Proofs.Text.Trim
import TypeCatalog.TypeRef.Reader

/-! # Type references — the grammar of written references

`Written` says of a text which production it is, in terms of the whole text: where its tilde and its
first colon stand, whether its brackets balance, what stands between the bars and commas outside
them.  `Denotes` follows the productions down to the reference a text stands for.  Neither mentions
how a text is read.

* `production_eq_ok_iff`: the reader sees the production that is written.
* `ofText_eq_ok_iff`: a text is read as the reference it stands for, and refused as an invalid
  reference if it stands for none.
* `Denotes.unique`: a text stands for one reference at most.
-/

namespace TypeCatalog.Text

/-! ### The first occurrence of a character -/

theorem takeWhile_of_not_mem {a : Char} {cs : List Char} (h : a ∉ cs) :
    cs.takeWhile (· != a) = cs ∧ cs.dropWhile (· != a) = [] := by
  have hp : ∀ c ∈ cs, (c != a) = true := fun c hc => bne_iff_ne.2 fun e => h (e ▸ hc)
  exact ⟨List.takeWhile_eq_self_iff.2 hp, List.dropWhile_eq_nil_iff.2 hp⟩

theorem takeWhile_of_first {a : Char} {front : List Char} (back : List Char) (h : a ∉ front) :
    (front ++ a :: back).takeWhile (· != a) = front ∧
      (front ++ a :: back).dropWhile (· != a) = a :: back := by
  have hp : ∀ c ∈ front, (c != a) = true := fun c hc => bne_iff_ne.2 fun e => h (e ▸ hc)
  rw [List.takeWhile_append_of_pos hp, List.dropWhile_append_of_pos hp]
  simp

end TypeCatalog.Text

namespace TypeCatalog.TypeRef

open Text

/-! ### Productions -/

/-- `text` without the blanks at its ends is `source`, which is neither empty nor a type variable
and has its brackets balanced. -/
structure Plain (text source : List Char) : Prop where
  trim_eq : trim text = source
  ne_nil : source ≠ []
  head_ne : source.head? ≠ some '~'
  balanced : Balanced source

/-- Besides, `source` is no union: no bar stands outside brackets. -/
structure Single (text source : List Char) : Prop extends Plain text source where
  no_bar : ¬ Outside '|' source

/-- `text` is a dotted name with the arguments `args` in brackets; `base` is the qualified name. -/
inductive Subscript : List Char → String → List (List Char) → Prop where
  | mk {text head body : List Char} {args : List (List Char)}
      (single : Single text (head ++ '[' :: (body ++ [']'])))
      (first : '[' ∉ head)
      (dotted : isDotted (trim head) = true)
      (pieces : IsPieces ',' body args)
      (visible : ∀ a ∈ args, trim a ≠ []) :
      Subscript text (qualify (String.ofList (trim head))) args

/-- `base` with these arguments is a tuple of any length. -/
def IsVariadic (base : String) (args : List (List Char)) : Prop :=
  base ∈ tupleNames ∧ ∃ arg rest, args = [arg, rest] ∧ trim rest = "...".toList

/-- `text` is written in the form of a production. -/
inductive Written : List Char → Production → Prop where
  | unbounded {text name : List Char}
      (tilde : trim text = '~' :: name) (first : ':' ∉ name)
      (identifier : isIdentifier (trim name) = true) :
      Written text (.leaf (typeVariable (String.ofList (trim name)) none))
  | bounded {text name bound : List Char}
      (tilde : trim text = '~' :: (name ++ ':' :: bound)) (first : ':' ∉ name)
      (identifier : isIdentifier (trim name) = true) (visible : trim bound ≠ []) :
      Written text (.around (.bounds (String.ofList (trim name))) bound)
  | union {text source member : List Char} {front back : List (List Char)}
      (plain : Plain text source) (pieces : IsPieces '|' source (front ++ member :: back))
      (others : front ++ back ≠ []) (none : ∀ p ∈ front ++ back, trim p = "None".toList)
      (some : trim member ≠ "None".toList) :
      Written text (.around .same (trim member))
  | optional {text arg : List Char} {base : String}
      (subscript : Subscript text base [arg]) (name : base ∈ optionalNames) :
      Written text (.around .same (trim arg))
  | array {text arg : List Char} {base container : String}
      (subscript : Subscript text base [arg]) (name : (base, container) ∈ arrayContainers) :
      Written text (.around (.array container) (trim arg))
  | tuple {text arg rest : List Char} {base : String}
      (subscript : Subscript text base [arg, rest]) (name : base ∈ tupleNames)
      (dots : trim rest = "...".toList) :
      Written text (.around (.array "builtins.tuple") (trim arg))
  | dropped {text : List Char} {base : String} {args : List (List Char)}
      (subscript : Subscript text base args) (not_optional : base ∉ optionalNames)
      (not_array : ∀ container, (base, container) ∉ arrayContainers)
      (not_tuple : ¬ IsVariadic base args) :
      Written text (.leaf (ofClass base))
  | primitive {text : List Char} {p : Primitive}
      (single : Single text p.spelling.toList) :
      Written text (.leaf (ofPrimitive p))
  | name {text source : List Char}
      (single : Single text source) (dotted : isDotted source = true)
      (not_primitive : ∀ p : Primitive, p.spelling.toList ≠ source) :
      Written text (.leaf (ofClass (qualify (String.ofList source))))

/-- `text` stands for the reference. -/
inductive Denotes : List Char → TypeRef → Prop where
  | leaf {text : List Char} {r : TypeRef} (h : Written text (.leaf r)) : Denotes text r
  | around {text inner : List Char} {w : Wrapper} {r : TypeRef}
      (h : Written text (.around w inner)) (hr : Denotes inner r) : Denotes text (w.wrap r)

/-! ### Type variables -/

theorem variableProduction_unbounded {text body : List Char} (h : ':' ∉ body)
    (hi : isIdentifier (trim body) = true) :
    variableProduction text body
      = .ok (.leaf (typeVariable (String.ofList (trim body)) none)) := by
  obtain ⟨ht, hd⟩ := takeWhile_of_not_mem h
  have hn : variableName body = trim body := by rw [variableName, ht]
  rw [variableProduction, hn, if_pos hi, hd]

theorem variableProduction_bounded {text name bound : List Char} (h : ':' ∉ name)
    (hi : isIdentifier (trim name) = true) (hb : trim bound ≠ []) :
    variableProduction text (name ++ ':' :: bound)
      = .ok (.around (.bounds (String.ofList (trim name))) bound) := by
  obtain ⟨ht, hd⟩ := takeWhile_of_first bound h
  have hn : variableName (name ++ ':' :: bound) = trim name := by rw [variableName, ht]
  rw [variableProduction, hn, if_pos hi, hd]
  exact if_neg hb

theorem written_of_variableProduction {text body : List Char} {p : Production}
    (ht : trim text = '~' :: body) (h : variableProduction text body = .ok p) : Written text p := by
  -- the name ends at the first colon, if there is one
  by_cases hm : ':' ∈ body
  · obtain ⟨name, bound, rfl, hf⟩ := List.eq_append_cons_of_mem hm
    obtain ⟨hw, hd⟩ := takeWhile_of_first bound hf
    have hn : variableName (name ++ ':' :: bound) = trim name := by rw [variableName, hw]
    rw [variableProduction, hn, hd] at h
    split at h
    · rename_i hi
      dsimp only at h
      split at h
      · cases h
      · rename_i hb
        obtain rfl := Except.ok.inj h
        exact .bounded ht hf hi hb
    · cases h
  · obtain ⟨hw, hd⟩ := takeWhile_of_not_mem hm
    have hn : variableName body = trim body := by rw [variableName, hw]
    rw [variableProduction, hn, hd] at h
    split at h
    · rename_i hi
      obtain rfl := Except.ok.inj h
      exact .unbounded ht hm hi
    · cases h

/-! ### Unions -/

/-- The word that a union may have as a member any number of times. -/
def noneWord : List Char := "None".toList

theorem unionProduction_of_others {text member : List Char} {front back : List (List Char)}
    (hn : ∀ m ∈ front ++ back, m = noneWord) (hm : member ≠ noneWord) :
    unionProduction text (front ++ member :: back) = .ok (.around .same member) := by
  have hf : front.filter (· != "None".toList) = [] :=
    List.filter_eq_nil_iff.2 fun m h => by simp [hn m (List.mem_append_left _ h), noneWord]
  have hb : back.filter (· != "None".toList) = [] :=
    List.filter_eq_nil_iff.2 fun m h => by simp [hn m (List.mem_append_right _ h), noneWord]
  have hk : (member != "None".toList) = true := bne_iff_ne.2 hm
  rw [unionProduction, List.filter_append, List.filter_cons, if_pos hk, hf, hb]
  rfl

theorem others_of_unionProduction {text : List Char} {members : List (List Char)} {p : Production}
    (h : unionProduction text members = .ok p) :
    ∃ front member back, members = front ++ member :: back ∧
      (∀ m ∈ front ++ back, m = noneWord) ∧ member ≠ noneWord ∧ p = .around .same member := by
  unfold unionProduction at h
  split at h
  · rename_i member hf
    obtain rfl := Except.ok.inj h
    obtain ⟨front, back, rfl, hfront, hm, hback⟩ := List.filter_eq_cons_iff.1 hf
    refine ⟨front, member, back, rfl, fun m hm => ?_, bne_iff_ne.1 hm, rfl⟩
    rcases List.mem_append.1 hm with hm | hm
    · simpa [noneWord] using hfront m hm
    · simpa [noneWord] using List.filter_eq_nil_iff.1 hback m hm
  · cases h

/-! ### Arguments -/

theorem get?_arrayContainers {base container : String} :
    Entries.get? base arrayContainers = some container ↔ (base, container) ∈ arrayContainers := by
  refine ⟨Entries.mem_of_get?, fun h => ?_⟩
  have all : ∀ e ∈ arrayContainers, Entries.get? e.1 arrayContainers = some e.2 := by decide
  exact all _ h

theorem not_optional_of_array {base container : String} (h : (base, container) ∈ arrayContainers) :
    base ∉ optionalNames := by
  have all : ∀ e ∈ arrayContainers, e.1 ∉ optionalNames := by decide
  exact all _ h

theorem not_optional_of_tuple {base : String} (h : base ∈ tupleNames) : base ∉ optionalNames := by
  have all : ∀ n ∈ tupleNames, n ∉ optionalNames := by decide
  exact all _ h

theorem get?_of_tuple {base : String} (h : base ∈ tupleNames) :
    Entries.get? base arrayContainers = none := by
  have all : ∀ n ∈ tupleNames, Entries.get? n arrayContainers = none := by decide
  exact all _ h

/-- What the arguments of a subscript come to. -/
theorem argumentProduction_dropped {text : List Char} {base : String} {args : List (List Char)}
    (ho : base ∉ optionalNames) (ha : ∀ container, (base, container) ∉ arrayContainers)
    (ht : ¬ IsVariadic base args) :
    argumentProduction text base (args.map trim) = .ok (.leaf (ofClass base)) := by
  have hg : Entries.get? base arrayContainers = none := by
    cases hg : Entries.get? base arrayContainers with
    | none => rfl
    | some container => exact absurd (get?_arrayContainers.1 hg) (ha container)
  unfold argumentProduction
  rw [if_neg ho, hg]
  dsimp only
  split
  · rename_i arg rest hargs
    obtain ⟨a, as, rfl, rfl, has⟩ := List.map_eq_cons_iff.1 hargs
    obtain ⟨b, rfl, rfl⟩ := List.map_eq_singleton_iff.1 has
    exact if_neg fun h => ht ⟨h.1, a, b, rfl, h.2⟩
  · rfl

theorem argumentProduction_tuple {text arg rest : List Char} {base : String}
    (hb : base ∈ tupleNames) (hr : rest = "...".toList) :
    argumentProduction text base [arg, rest] = .ok (.around (.array "builtins.tuple") arg) := by
  rw [argumentProduction, if_neg (not_optional_of_tuple hb), get?_of_tuple hb]
  exact if_pos ⟨hb, hr⟩

theorem written_of_argumentProduction {text : List Char} {base : String}
    {args : List (List Char)} {p : Production} (hs : Subscript text base args)
    (h : argumentProduction text base (args.map trim) = .ok p) : Written text p := by
  -- in the order of the reader: `Optional`, the containers, tuples, every other name
  by_cases ho : base ∈ optionalNames
  · unfold argumentProduction at h
    rw [if_pos ho] at h
    split at h
    · rename_i arg hargs
      obtain ⟨a, rfl, rfl⟩ := List.map_eq_singleton_iff.1 hargs
      obtain rfl := Except.ok.inj h
      exact .optional hs ho
    · cases h
  · cases hg : Entries.get? base arrayContainers with
    | some container =>
        unfold argumentProduction at h
        rw [if_neg ho, hg] at h
        dsimp only at h
        split at h
        · rename_i arg hargs
          obtain ⟨a, rfl, rfl⟩ := List.map_eq_singleton_iff.1 hargs
          obtain rfl := Except.ok.inj h
          exact .array hs (get?_arrayContainers.1 hg)
        · cases h
    | none =>
        by_cases ht : IsVariadic base args
        · obtain ⟨hb, arg, rest, rfl, hr⟩ := ht
          obtain rfl := Except.ok.inj ((argumentProduction_tuple hb hr).symm.trans h)
          exact .tuple hs hb hr
        · have ha : ∀ container, (base, container) ∉ arrayContainers := fun container hc => by
            rw [get?_arrayContainers.2 hc] at hg
            cases hg
          obtain rfl := Except.ok.inj ((argumentProduction_dropped ho ha ht).symm.trans h)
          exact .dropped hs ho ha ht

/-! ### Subscripts and names -/

theorem dottedName_eq_ok_iff {text name : List Char} {base : String} :
    dottedName text name = .ok base ↔
      isDotted name = true ∧ qualify (String.ofList name) = base := by
  unfold dottedName
  split
  · rename_i h
    simp [h]
  · rename_i h
    simp [h]

theorem bodyProduction_of_pieces {text body : List Char} {base : String}
    {args : List (List Char)} (hp : IsPieces ',' body args) (hv : ∀ a ∈ args, trim a ≠ []) :
    bodyProduction text base body = argumentProduction text base (args.map trim) := by
  have hc : topPieces ',' body 0 = some args :=
    (topPieces_eq_some_iff (by simp [IsBracket])).2 hp
  have hany : ¬ (args.any fun a => trim a = []) = true := by simpa using hv
  rw [bodyProduction, hc]
  exact if_neg hany

theorem pieces_of_bodyProduction {text body : List Char} {base : String} {p : Production}
    (h : bodyProduction text base body = .ok p) :
    ∃ args, IsPieces ',' body args ∧ ∀ a ∈ args, trim a ≠ [] := by
  unfold bodyProduction at h
  split at h
  · cases h
  · rename_i args hc
    split at h
    · cases h
    · rename_i hany
      exact ⟨args, (topPieces_eq_some_iff (by simp [IsBracket])).1 hc, by simpa using hany⟩

theorem ne_nil_of_isDotted {name : List Char} (h : isDotted (trim name) = true) : name ≠ [] := by
  rintro rfl
  cases h

theorem subscriptProduction_of_head {text head body : List Char} (hf : '[' ∉ head)
    (hd : isDotted (trim head) = true) :
    subscriptProduction text (head ++ '[' :: (body ++ [']']))
      = bodyProduction text (qualify (String.ofList (trim head))) body := by
  obtain ⟨ht, hw⟩ := takeWhile_of_first (body ++ [']']) hf
  have hn : dottedName text (trim head) = .ok (qualify (String.ofList (trim head))) :=
    dottedName_eq_ok_iff.2 ⟨hd, rfl⟩
  obtain ⟨c, front, rfl⟩ := List.exists_cons_of_ne_nil (ne_nil_of_isDotted hd)
  rw [subscriptProduction, ht, hw]
  dsimp only
  rw [hn]
  simp

theorem written_of_subscriptProduction {text source : List Char} {p : Production}
    (hs : Single text source) (hl : source.getLast? = some ']')
    (h : subscriptProduction text source = .ok p) : Written text p := by
  by_cases hm : '[' ∈ source
  · obtain ⟨head, after, rfl, hf⟩ := List.eq_append_cons_of_mem hm
    obtain ⟨ht, hw⟩ := takeWhile_of_first after hf
    -- the last character is a bracket that closes, so it is not the first one that opens
    have ha : after.getLast? = some ']' := by
      cases after with
      | nil => simp at hl
      | cons c after => simpa using hl
    obtain ⟨body, rfl⟩ : ∃ body, after = body ++ [']'] := by
      obtain ⟨body, hb⟩ := List.getLast?_eq_some_iff.1 ha
      exact ⟨body, hb⟩
    cases hd : isDotted (trim head) with
    | false =>
        rw [subscriptProduction, ht, hw] at h
        cases head with
        | nil => cases h
        | cons c front =>
            dsimp only at h
            rw [dottedName, hd] at h
            cases h
    | true =>
        rw [subscriptProduction_of_head hf hd] at h
        obtain ⟨args, hp, hv⟩ := pieces_of_bodyProduction h
        rw [bodyProduction_of_pieces hp hv] at h
        exact written_of_argumentProduction (.mk hs hf hd hp hv) h
  · obtain ⟨ht, hw⟩ := takeWhile_of_not_mem hm
    unfold subscriptProduction at h
    split at h
    · rename_i hd
      rw [hw] at hd
      cases hd
    · cases h

theorem written_of_nameProduction {text source : List Char} {p : Production}
    (hs : Single text source) (h : nameProduction text source = .ok p) : Written text p := by
  unfold nameProduction at h
  split at h
  · rename_i q hq
    obtain rfl := Except.ok.inj h
    have hq : q.spelling.toList = source := by
      rw [Primitive.spelling_of_ofSpelling? hq, String.toList_ofList]
    exact .primitive (hq ▸ hs)
  · rename_i hq
    cases hd : dottedName text source with
    | error fault =>
        rw [hd] at h
        cases h
    | ok name =>
        rw [hd] at h
        obtain rfl := Except.ok.inj h
        obtain ⟨hdot, rfl⟩ := dottedName_eq_ok_iff.1 hd
        refine .name hs hdot fun q hqs => Primitive.ofSpelling?_eq_none_iff.1 hq q ?_
        rw [← hqs, String.ofList_toList]

theorem nameProduction_primitive (text : List Char) (p : Primitive) :
    nameProduction text p.spelling.toList = .ok (.leaf (ofPrimitive p)) := by
  rw [nameProduction, String.ofList_toList, Primitive.ofSpelling?_spelling]

theorem nameProduction_name {text source : List Char} (hd : isDotted source = true)
    (hp : ∀ p : Primitive, p.spelling.toList ≠ source) :
    nameProduction text source = .ok (.leaf (ofClass (qualify (String.ofList source)))) := by
  have hn : Primitive.ofSpelling? (String.ofList source) = none :=
    Primitive.ofSpelling?_eq_none_iff.2 fun p hs => hp p (by rw [hs, String.toList_ofList])
  rw [nameProduction, hn, dottedName_eq_ok_iff.2 ⟨hd, rfl⟩]
  rfl

/-! ### Every production -/

theorem production_of_tilde {text body : List Char} (h : trim text = '~' :: body) :
    production text = variableProduction text body := by
  unfold production
  rw [h]
  rfl

theorem production_of_plain {text source : List Char} (h : Plain text source) :
    production text = plainProduction text source := by
  obtain ⟨ht, hn, hh, -⟩ := h
  unfold production
  rw [ht]
  split
  · exact absurd rfl hn
  · exact absurd rfl hh
  · rfl

theorem plainProduction_of_single {text source : List Char} (h : Single text source) :
    plainProduction text source =
      if source.getLast? = some ']' then subscriptProduction text source
      else nameProduction text source := by
  have hw : topPieces '|' source 0 = some [source] :=
    topPieces_whole (by simp [IsBracket]) h.balanced h.no_bar
  rw [plainProduction, hw]

theorem production_of_subscript {text : List Char} {base : String} {args : List (List Char)}
    (h : Subscript text base args) :
    production text = argumentProduction text base (args.map trim) := by
  cases h with
  | mk single first dotted pieces visible =>
      rw [production_of_plain single.toPlain, plainProduction_of_single single,
        if_pos (by simp [List.getLast?_cons]), subscriptProduction_of_head first dotted,
        bodyProduction_of_pieces pieces visible]

/-- A text that ends with a bracket is no name. -/
theorem production_of_single {text source : List Char} (h : Single text source)
    (hl : source.getLast? ≠ some ']') : production text = nameProduction text source := by
  rw [production_of_plain h.toPlain, plainProduction_of_single h, if_neg hl]

theorem production_of_union {text source member : List Char} {front back : List (List Char)}
    (plain : Plain text source) (pieces : IsPieces '|' source (front ++ member :: back))
    (others : front ++ back ≠ []) (none : ∀ p ∈ front ++ back, trim p = noneWord)
    (some : trim member ≠ noneWord) :
    production text = .ok (.around .same (trim member)) := by
  have hc := (topPieces_eq_some_iff (by simp [IsBracket])).2 pieces
  -- there are at least two members, the one and one of the others
  obtain ⟨x, y, z, hxyz⟩ : ∃ x y z, front ++ member :: back = x :: y :: z := by
    cases front with
    | nil =>
        obtain ⟨b, bs, rfl⟩ := List.exists_cons_of_ne_nil others
        exact ⟨member, b, bs, rfl⟩
    | cons f fs => cases fs <;> exact ⟨_, _, _, rfl⟩
  rw [production_of_plain plain, plainProduction, hc, hxyz]
  dsimp only
  rw [← hxyz, List.map_append, List.map_cons]
  refine unionProduction_of_others (fun m hm => ?_) some
  rw [← List.map_append] at hm
  obtain ⟨p, hp, rfl⟩ := List.mem_map.1 hm
  exact none p hp

theorem written_of_plainProduction {text source : List Char} {p : Production}
    (ht : trim text = source) (hn : source ≠ []) (hh : source.head? ≠ some '~')
    (h : plainProduction text source = .ok p) : Written text p := by
  unfold plainProduction at h
  split at h
  · cases h
  · rename_i x y z hc
    have hb : Balanced source := topPieces_isSome_iff.1 (by rw [hc]; rfl)
    have pieces := (topPieces_eq_some_iff (by simp [IsBracket])).1 hc
    obtain ⟨front, member, back, hm, hnone, hsome, rfl⟩ := others_of_unionProduction h
    obtain ⟨front, rest, hfront, rfl, hrest⟩ := List.map_eq_append_iff.1 hm
    obtain ⟨member, back, rfl, rfl, rfl⟩ := List.map_eq_cons_iff.1 hrest
    rw [hfront] at pieces
    rw [← List.map_append] at hnone
    refine .union ⟨ht, hn, hh, hb⟩ pieces (fun he => ?_)
      (fun p hp => hnone _ (List.mem_map_of_mem hp)) hsome
    obtain ⟨rfl, rfl⟩ := List.append_eq_nil_iff.1 he
    cases hfront
  · rename_i ps hne hc
    have hb : Balanced source := topPieces_isSome_iff.1 (by rw [hc]; rfl)
    have pieces := (topPieces_eq_some_iff (by simp [IsBracket])).1 hc
    have whole : ps = [source] := by
      obtain ⟨q, qs, rfl⟩ := List.exists_cons_of_ne_nil pieces.ne_nil
      cases qs with
      | nil => exact congrArg (fun a => [a]) pieces.glue_eq
      | cons y z => exact absurd rfl (hne q y z)
    have hs : Single text source := ⟨⟨ht, hn, hh, hb⟩, pieces.inside source (by simp [whole])⟩
    split at h
    · rename_i hl
      exact written_of_subscriptProduction hs hl h
    · exact written_of_nameProduction hs h

/-- **The reader sees the production that is written.** -/
theorem production_eq_ok_iff {text : List Char} {p : Production} :
    production text = .ok p ↔ Written text p := by
  constructor
  · intro h
    unfold production at h
    split at h
    · cases h
    · rename_i body ht
      exact written_of_variableProduction ht h
    · -- neither empty nor with a tilde in front
      rename_i source hn hh
      refine written_of_plainProduction rfl hn (fun e => ?_) h
      cases ht : trim text with
      | nil => exact hn ht
      | cons c cs =>
          rw [ht] at e
          obtain rfl := Option.some.inj e
          exact hh cs ht
  · intro h
    cases h with
    | unbounded tilde first identifier =>
        rw [production_of_tilde tilde]
        exact variableProduction_unbounded first identifier
    | bounded tilde first identifier visible =>
        rw [production_of_tilde tilde]
        exact variableProduction_bounded first identifier visible
    | union plain pieces others none some =>
        exact production_of_union plain pieces others none some
    | optional subscript name =>
        rw [production_of_subscript subscript]
        exact if_pos name
    | array subscript name =>
        rw [production_of_subscript subscript]
        unfold argumentProduction
        rw [if_neg (not_optional_of_array name), get?_arrayContainers.2 name]
        rfl
    | tuple subscript name dots =>
        rw [production_of_subscript subscript]
        exact argumentProduction_tuple name dots
    | dropped subscript not_optional not_array not_tuple =>
        rw [production_of_subscript subscript]
        exact argumentProduction_dropped not_optional not_array not_tuple
    | @primitive q single =>
        have hl : q.spelling.toList.getLast? ≠ some ']' := by cases q <;> decide
        rw [production_of_single single hl]
        exact nameProduction_primitive text q
    | @name source single dotted not_primitive =>
        have hl : source.getLast? ≠ some ']' := fun hl =>
          (isName_of_isDotted dotted).not_mem (by decide) (List.mem_of_getLast? hl)
        rw [production_of_single single hl]
        exact nameProduction_name dotted not_primitive

/-! ### Faults -/

/-- Whatever is refused is refused as an invalid reference. -/
def RefusesAsInvalid {α : Type} (e : Except TypeFault α) : Prop :=
  ∀ fault, e = .error fault → ∃ text flaw, fault = .invalid text flaw

theorem refusesAsInvalid_ok {α : Type} (a : α) : RefusesAsInvalid (.ok a) := by
  intro fault h
  cases h

theorem refusesAsInvalid_invalid {α : Type} (text : List Char) (flaw : TypeFlaw) :
    RefusesAsInvalid (.error (invalid text flaw) : Except TypeFault α) := by
  intro fault h
  obtain rfl := Except.error.inj h
  exact ⟨_, flaw, rfl⟩

theorem RefusesAsInvalid.map {α β : Type} {e : Except TypeFault α} (h : RefusesAsInvalid e)
    (f : α → β) : RefusesAsInvalid (e.map f) := by
  intro fault hf
  cases e with
  | error fault' => exact h fault (congrArg Except.error (Except.error.inj hf))
  | ok a => cases hf

theorem refusesAsInvalid_dottedName (text name : List Char) :
    RefusesAsInvalid (dottedName text name) := by
  unfold dottedName
  split
  · exact refusesAsInvalid_ok _
  · exact refusesAsInvalid_invalid _ _

theorem refusesAsInvalid_argumentProduction (text : List Char) (base : String)
    (args : List (List Char)) : RefusesAsInvalid (argumentProduction text base args) := by
  unfold argumentProduction
  split
  · split
    · exact refusesAsInvalid_ok _
    · exact refusesAsInvalid_invalid _ _
  · split
    · split
      · exact refusesAsInvalid_ok _
      · exact refusesAsInvalid_invalid _ _
    · split
      · split <;> exact refusesAsInvalid_ok _
      · exact refusesAsInvalid_ok _

theorem refusesAsInvalid_subscriptProduction (text source : List Char) :
    RefusesAsInvalid (subscriptProduction text source) := by
  unfold subscriptProduction
  split
  · split
    · rename_i hd
      intro fault h
      obtain rfl := Except.error.inj h
      exact refusesAsInvalid_dottedName _ _ _ hd
    · unfold bodyProduction
      split
      · exact refusesAsInvalid_invalid _ _
      · split
        · exact refusesAsInvalid_invalid _ _
        · exact refusesAsInvalid_argumentProduction _ _ _
  · exact refusesAsInvalid_invalid _ _

theorem refusesAsInvalid_plainProduction (text source : List Char) :
    RefusesAsInvalid (plainProduction text source) := by
  unfold plainProduction
  split
  · exact refusesAsInvalid_invalid _ _
  · unfold unionProduction
    split
    · exact refusesAsInvalid_ok _
    · exact refusesAsInvalid_invalid _ _
  · split
    · exact refusesAsInvalid_subscriptProduction _ _
    · unfold nameProduction
      split
      · exact refusesAsInvalid_ok _
      · exact (refusesAsInvalid_dottedName _ _).map _

theorem refusesAsInvalid_production (text : List Char) : RefusesAsInvalid (production text) := by
  unfold production
  split
  · exact refusesAsInvalid_invalid _ _
  · unfold variableProduction
    split
    · split
      · exact refusesAsInvalid_ok _
      · split
        · exact refusesAsInvalid_invalid _ _
        · exact refusesAsInvalid_ok _
    · exact refusesAsInvalid_invalid _ _
  · exact refusesAsInvalid_plainProduction _ _

/-! ### References -/

/-- Reading follows the production a text is. -/
theorem read_eq (text : List Char) :
    read text =
      match production text with
      | .error fault          => .error fault
      | .ok (.leaf r)         => .ok r
      | .ok (.around w inner) => (read inner).map w.wrap := by
  rw [read]
  split
  · rename_i hp
    rw [hp]
  · rename_i hp
    rw [hp]
  · rename_i hp
    rw [hp]

theorem read_of_leaf {text : List Char} {r : TypeRef} (h : production text = .ok (.leaf r)) :
    read text = .ok r := by
  rw [read_eq, h]

theorem read_of_around {text inner : List Char} {w : Wrapper}
    (h : production text = .ok (.around w inner)) : read text = (read inner).map w.wrap := by
  rw [read_eq, h]

theorem read_of_denotes {text : List Char} {r : TypeRef} (h : Denotes text r) :
    read text = .ok r := by
  induction h with
  | leaf h => exact read_of_leaf (production_eq_ok_iff.2 h)
  | around h _ ih =>
      rw [read_of_around (production_eq_ok_iff.2 h), ih]
      rfl

theorem denotes_of_read {text : List Char} {r : TypeRef} (h : read text = .ok r) :
    Denotes text r := by
  fun_induction read text generalizing r with
  | case1 text fault hp => cases h
  | case2 text r' hp =>
      obtain rfl := Except.ok.inj h
      exact .leaf (production_eq_ok_iff.1 hp)
  | case3 text w inner hp ih =>
      cases hr : read inner with
      | error fault =>
          rw [hr] at h
          cases h
      | ok r' =>
          rw [hr] at h
          obtain rfl := Except.ok.inj h
          exact .around (production_eq_ok_iff.1 hp) (ih hr)

theorem read_eq_ok_iff {text : List Char} {r : TypeRef} : read text = .ok r ↔ Denotes text r :=
  ⟨denotes_of_read, read_of_denotes⟩

/-- A text stands for one reference at most. -/
theorem Denotes.unique {text : List Char} {r s : TypeRef} (hr : Denotes text r)
    (hs : Denotes text s) : r = s :=
  Except.ok.inj ((read_of_denotes hr).symm.trans (read_of_denotes hs))

theorem refusesAsInvalid_read (text : List Char) : RefusesAsInvalid (read text) := by
  fun_induction read text with
  | case1 text fault hp =>
      intro fault' h
      obtain rfl := Except.error.inj h
      exact refusesAsInvalid_production text fault hp
  | case2 text r hp => exact refusesAsInvalid_ok r
  | case3 text w inner hp ih => exact ih.map w.wrap

/-- **The grammar.**  A text is read as the reference it stands for; every other text is refused as
an invalid reference. -/
theorem ofText_eq_ok_iff (text : String) :
    (∀ r, ofText text = .ok r ↔ Denotes text.toList r) ∧
      ∀ fault, ofText text = .error fault →
        fault.report.family = .typeModel ∧ fault.report.code = .invalidTypeRef := by
  refine ⟨fun r => read_eq_ok_iff, fun fault h => ?_⟩
  obtain ⟨at_, flaw, rfl⟩ := refusesAsInvalid_read _ _ h
  exact ⟨rfl, rfl⟩

end TypeCatalog.TypeRef
