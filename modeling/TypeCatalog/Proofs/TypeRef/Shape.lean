import TypeCatalog.Proofs.TypeRef.Grammar

/-! # Type references — the shape of what is read

A reference that comes from outside may have any parts, one that a text stands for may not: an array
has a component and one of five containers, a type variable an identifier as its name, a primitive
one of the eight spellings, and a class a dotted name that stands for itself.

A class may still be named like a primitive, because the arguments of a name that is no container
are dropped; `NoNamesake` says of a reference that this happens nowhere in it.

* `shaped_of_denotes`: every reference a text stands for is shaped.
* `wellFormed_iff`: a well-formed reference is a shaped one without such a class.
-/

namespace TypeCatalog.TypeRef

open Text

/-! ### Qualified names -/

theorem not_mem_builtinNames_of_dot {name : String} (h : '.' ∈ name.toList) :
    name ∉ builtinNames := by
  have all : ∀ n ∈ builtinNames, '.' ∉ n.toList := by decide +kernel
  intro hn
  exact all name hn h

theorem qualify_of_mem {name : String} (h : name ∈ builtinNames) :
    qualify name = "builtins." ++ name :=
  if_pos (List.contains_iff_mem.2 h)

theorem qualify_of_not_mem {name : String} (h : name ∉ builtinNames) : qualify name = name :=
  if_neg fun hc => h (List.contains_iff_mem.1 hc)

/-- A qualified name stands for itself. -/
theorem qualify_qualify (name : String) : qualify (qualify name) = qualify name := by
  by_cases h : name ∈ builtinNames
  · -- what is qualified has a full stop, and no built-in name has one
    rw [qualify_of_mem h]
    refine qualify_of_not_mem (not_mem_builtinNames_of_dot ?_)
    rw [String.toList_append]
    exact List.mem_append_left _ (by decide)
  · rw [qualify_of_not_mem h, qualify_of_not_mem h]

theorem isDotted_qualify {name : String} (h : isDotted name.toList = true) :
    isDotted (qualify name).toList = true := by
  by_cases hn : name ∈ builtinNames
  · -- one more component, in front of the others
    have hb : "builtins.".toList = "builtins".toList ++ ['.'] := by decide
    have hc : isComponent "builtins".toList = true := by decide
    rw [qualify_of_mem hn, isDotted, String.toList_append, hb, List.append_assoc,
      List.singleton_append, pieces_append _ (by decide), List.all_cons, hc]
    exact h
  · rwa [qualify_of_not_mem hn]

/-! ### Shape -/

/-- The containers of arrays. -/
def containers : List String :=
  ["builtins.list", "builtins.set", "builtins.frozenset", "builtins.tuple",
   "collections.abc.Sequence"]

/-- A reference that has the parts its kind calls for, and no others. -/
inductive Shaped : TypeRef → Prop where
  | primitive (p : Primitive) : Shaped (ofPrimitive p)
  | classType {name : String} (dotted : isDotted name.toList = true)
      (qualified : qualify name = name) : Shaped (ofClass name)
  | array {container : String} {component : TypeRef} (canonical : container ∈ containers)
      (h : Shaped component) : Shaped (arrayOf container component)
  | unbounded {name : String} (identifier : isIdentifier name.toList = true) :
      Shaped (typeVariable name none)
  | bounded {name : String} {bound : TypeRef} (identifier : isIdentifier name.toList = true)
      (h : Shaped bound) : Shaped (typeVariable name (some bound))

theorem mem_containers_of_array {base container : String}
    (h : (base, container) ∈ arrayContainers) : container ∈ containers := by
  have all : ∀ e ∈ arrayContainers, e.2 ∈ containers := by decide
  exact all _ h

theorem shaped_ofClass_qualify {name : List Char} (h : isDotted name = true) :
    Shaped (ofClass (qualify (String.ofList name))) :=
  .classType (isDotted_qualify (by rwa [String.toList_ofList])) (qualify_qualify _)

theorem shaped_of_written {text : List Char} {r : TypeRef} (h : Written text (.leaf r)) :
    Shaped r := by
  cases h with
  | unbounded _ _ identifier => exact .unbounded (by rwa [String.toList_ofList])
  | dropped subscript _ _ _ =>
      cases subscript with
      | mk _ _ dotted _ _ => exact shaped_ofClass_qualify dotted
  | primitive _ => exact .primitive _
  | name _ dotted _ => exact shaped_ofClass_qualify dotted

theorem shaped_wrap {text inner : List Char} {w : Wrapper} {r : TypeRef}
    (h : Written text (.around w inner)) (hr : Shaped r) : Shaped (w.wrap r) := by
  cases h with
  | bounded _ _ identifier _ => exact .bounded (by rwa [String.toList_ofList]) hr
  | union _ _ _ _ _ => exact hr
  | optional _ _ => exact hr
  | array _ name => exact .array (mem_containers_of_array name) hr
  | tuple _ _ _ => exact .array (by decide) hr

/-- **What is read is shaped.** -/
theorem shaped_of_denotes {text : List Char} {r : TypeRef} (h : Denotes text r) : Shaped r := by
  induction h with
  | leaf h => exact shaped_of_written h
  | around h _ ih => exact shaped_wrap h ih

/-! ### Classes named like primitives -/

/-- `s` stands in the reference: it is the reference, or stands in its component or its bound. -/
inductive Within (s : TypeRef) : TypeRef → Prop where
  | here : Within s s
  | component {r component : TypeRef} (h : r.component = some component)
      (hs : Within s component) : Within s r
  | bound {r bound : TypeRef} (h : r.bound = some bound) (hs : Within s bound) : Within s r

/-- No class in the reference is named like a primitive. -/
def NoNamesake (r : TypeRef) : Prop :=
  ∀ s, Within s r → s.kind = .classType → ∀ p : Primitive, p.spelling ≠ s.name

theorem noNamesake_iff {r : TypeRef} :
    NoNamesake r ↔ (r.kind = .classType → ∀ p : Primitive, p.spelling ≠ r.name) ∧
      (∀ component, r.component = some component → NoNamesake component) ∧
      ∀ bound, r.bound = some bound → NoNamesake bound := by
  constructor
  · intro h
    exact ⟨h r .here, fun c hc s hs => h s (.component hc hs), fun b hb s hs => h s (.bound hb hs)⟩
  · rintro ⟨hr, hc, hb⟩ s hs
    cases hs with
    | here => exact hr
    | component h hs => exact hc _ h s hs
    | bound h hs => exact hb _ h s hs

theorem noNamesake_primitive (p : Primitive) : NoNamesake (ofPrimitive p) := by
  rw [noNamesake_iff]
  simp [ofPrimitive]

theorem noNamesake_class {name : String} :
    NoNamesake (ofClass name) ↔ ∀ p : Primitive, p.spelling ≠ name := by
  rw [noNamesake_iff]
  simp [ofClass]

theorem noNamesake_array {container : String} {component : TypeRef} :
    NoNamesake (arrayOf container component) ↔ NoNamesake component := by
  rw [noNamesake_iff]
  simp [arrayOf]

theorem noNamesake_unbounded (name : String) : NoNamesake (typeVariable name none) := by
  rw [noNamesake_iff]
  simp [typeVariable]

theorem noNamesake_bounded {name : String} {bound : TypeRef} :
    NoNamesake (typeVariable name (some bound)) ↔ NoNamesake bound := by
  rw [noNamesake_iff]
  simp [typeVariable]

/-! ### Well-formed references -/

/-- A reference whose parts are those its kind calls for, with no class named like a primitive. -/
inductive WellFormed : TypeRef → Prop where
  | primitive (p : Primitive) : WellFormed (ofPrimitive p)
  | classType {name : String} (dotted : isDotted name.toList = true)
      (qualified : qualify name = name) (not_primitive : ∀ p : Primitive, p.spelling ≠ name) :
      WellFormed (ofClass name)
  | array {container : String} {component : TypeRef} (canonical : container ∈ containers)
      (h : WellFormed component) : WellFormed (arrayOf container component)
  | unbounded {name : String} (identifier : isIdentifier name.toList = true) :
      WellFormed (typeVariable name none)
  | bounded {name : String} {bound : TypeRef} (identifier : isIdentifier name.toList = true)
      (h : WellFormed bound) : WellFormed (typeVariable name (some bound))

/-- **Well-formed** is shaped, without namesakes of primitives. -/
theorem wellFormed_iff {r : TypeRef} : WellFormed r ↔ Shaped r ∧ NoNamesake r := by
  constructor
  · intro h
    induction h with
    | primitive p => exact ⟨.primitive p, noNamesake_primitive p⟩
    | classType dotted qualified not_primitive =>
        exact ⟨.classType dotted qualified, noNamesake_class.2 not_primitive⟩
    | array canonical _ ih => exact ⟨.array canonical ih.1, noNamesake_array.2 ih.2⟩
    | unbounded identifier => exact ⟨.unbounded identifier, noNamesake_unbounded _⟩
    | bounded identifier _ ih => exact ⟨.bounded identifier ih.1, noNamesake_bounded.2 ih.2⟩
  · rintro ⟨h, hn⟩
    induction h with
    | primitive p => exact .primitive p
    | classType dotted qualified => exact .classType dotted qualified (noNamesake_class.1 hn)
    | array canonical _ ih => exact .array canonical (ih (noNamesake_array.1 hn))
    | unbounded identifier => exact .unbounded identifier
    | bounded identifier _ ih => exact .bounded identifier (ih (noNamesake_bounded.1 hn))

end TypeCatalog.TypeRef
