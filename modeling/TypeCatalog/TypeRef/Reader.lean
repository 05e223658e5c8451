import TypeCatalog.Text.Blank
import TypeCatalog.TypeRef
import TypeCatalog.TypeRef.Builtin

/-! # Type references — reading

A written reference is, after its blanks are trimmed, one of

* `~N` and `~N: R`, a type variable without and with an upper bound;
* `R | None`, in any order and with `None` any number of times, which stands for `R`;
* `C[R]` for an array container `C`, `tuple[R, ...]`, and `Optional[R]`, which stands for `R`;
* any other dotted name with arguments, which are dropped;
* a primitive, or a dotted name.

`production` looks at a text and says which of these it is, without reading the reference inside;
`read` follows productions down.

* `length_lt_of_production`: the text inside is shorter, so that reading ends on every text.
-/

namespace TypeCatalog.TypeRef

open Text

/-! ### Productions -/

/-- What a production makes of the reference inside it. -/
inductive Wrapper where
  | same
  | array (container : String)
  | bounds (name : String)
  deriving DecidableEq, Repr

def Wrapper.wrap : Wrapper → TypeRef → TypeRef
  | .same,            r => r
  | .array container, r => arrayOf container r
  | .bounds name,     r => typeVariable name (some r)

/-- A reference without another inside, or the text of the one inside and what surrounds it. -/
inductive Production where
  | leaf (r : TypeRef)
  | around (w : Wrapper) (inner : List Char)

/-- The containers of arrays, under each of their spellings. -/
def arrayContainers : List (String × String) :=
  [("builtins.list", "builtins.list"), ("typing.List", "builtins.list"),
   ("builtins.set", "builtins.set"), ("typing.Set", "builtins.set"),
   ("builtins.frozenset", "builtins.frozenset"), ("typing.FrozenSet", "builtins.frozenset"),
   ("collections.abc.Sequence", "collections.abc.Sequence"),
   ("typing.Sequence", "collections.abc.Sequence")]

def tupleNames : List String := ["builtins.tuple", "typing.Tuple"]

def optionalNames : List String := ["typing.Optional", "Optional"]

def invalid (text : List Char) (flaw : TypeFlaw) : TypeFault := .invalid (String.ofList text) flaw

/-- The qualified form of a dotted name; `text` is what a fault is reported against. -/
def dottedName (text name : List Char) : Except TypeFault String :=
  if isDotted name then .ok (qualify (String.ofList name))
  else .error (invalid text (.notDotted (String.ofList name)))

/-- The name of the type variable `~body`: what stands before its first colon. -/
def variableName (body : List Char) : List Char := trim (body.takeWhile (· != ':'))

/-- The production of `~body`. -/
def variableProduction (text body : List Char) : Except TypeFault Production :=
  if isIdentifier (variableName body) then
    match body.dropWhile (· != ':') with
    | []         => .ok (.leaf (typeVariable (String.ofList (variableName body)) none))
    | _ :: bound =>
        if trim bound = [] then .error (invalid text .missingBound)
        else .ok (.around (.bounds (String.ofList (variableName body))) bound)
  else .error (invalid text .unnamedVariable)

/-- The production of a union: all members but one are `None`. -/
def unionProduction (text : List Char) (members : List (List Char)) : Except TypeFault Production :=
  match members.filter (· != "None".toList) with
  | [member] => .ok (.around .same member)
  | _        => .error (invalid text .union)

/-- The production of `base[args]`. -/
def argumentProduction (text : List Char) (base : String) (args : List (List Char)) :
    Except TypeFault Production :=
  if base ∈ optionalNames then
    match args with
    | [arg] => .ok (.around .same arg)
    | _     => .error (invalid text .optionalArguments)
  else
    match Entries.get? base arrayContainers with
    | some container =>
        match args with
        | [arg] => .ok (.around (.array container) arg)
        | _     => .error (invalid text (.containerArguments base))
    | none =>
        match args with
        | [arg, rest] =>
            if base ∈ tupleNames ∧ rest = "...".toList then
              .ok (.around (.array "builtins.tuple") arg)
            else .ok (.leaf (ofClass base))
        | _ => .ok (.leaf (ofClass base))

/-- The production of `base[body]`. -/
def bodyProduction (text : List Char) (base : String) (body : List Char) :
    Except TypeFault Production :=
  match topPieces ',' body 0 with
  | none      => .error (invalid body .unbalanced)
  | some args =>
      if args.any (fun a => trim a = []) then .error (invalid text .emptyArgument)
      else argumentProduction text base (args.map trim)

/-- The production of a text that ends with a closing bracket: its base stands before the first
opening one. -/
def subscriptProduction (text source : List Char) : Except TypeFault Production :=
  match source.takeWhile (· != '['), source.dropWhile (· != '[') with
  | c :: front, _ :: after =>
      match dottedName text (trim (c :: front)) with
      | .error fault => .error fault
      | .ok base     => bodyProduction text base after.dropLast
  | _, _ => .error (invalid text .unbalanced)

/-- The production of a name without arguments. -/
def nameProduction (text source : List Char) : Except TypeFault Production :=
  match Primitive.ofSpelling? (String.ofList source) with
  | some p => .ok (.leaf (ofPrimitive p))
  | none   => (dottedName text source).map fun name => .leaf (ofClass name)

/-- The production of a text that is neither blank nor a type variable. -/
def plainProduction (text source : List Char) : Except TypeFault Production :=
  match topPieces '|' source 0 with
  | none                  => .error (invalid source .unbalanced)
  | some (p :: q :: rest) => unionProduction text ((p :: q :: rest).map trim)
  | some _                =>
      if source.getLast? = some ']' then subscriptProduction text source
      else nameProduction text source

/-- Which production a text is. -/
def production (text : List Char) : Except TypeFault Production :=
  match trim text with
  | []          => .error (invalid text .empty)
  | '~' :: body => variableProduction text body
  | source      => plainProduction text source

/-! ### The inner text is shorter -/

theorem length_lt_of_variableProduction {text body inner : List Char} {w : Wrapper}
    (h : variableProduction text body = .ok (.around w inner)) : inner.length < body.length := by
  unfold variableProduction at h
  split at h
  · split at h
    · simp at h
    · rename_i c bound hb
      have hle := length_dropWhile_le (· != ':') body
      split at h
      · simp at h
      · simp only [Except.ok.injEq, Production.around.injEq] at h
        rw [hb, List.length_cons] at hle
        rw [← h.2]
        omega
  · simp at h

theorem mem_of_unionProduction {text inner : List Char} {members : List (List Char)} {w : Wrapper}
    (h : unionProduction text members = .ok (.around w inner)) : inner ∈ members := by
  unfold unionProduction at h
  split at h
  · rename_i m hm
    simp only [Except.ok.injEq, Production.around.injEq] at h
    have : m ∈ members.filter (· != "None".toList) := by rw [hm]; simp
    rw [← h.2]
    exact (List.mem_filter.1 this).1
  · simp at h

theorem mem_of_argumentProduction {text inner : List Char} {base : String}
    {args : List (List Char)} {w : Wrapper}
    (h : argumentProduction text base args = .ok (.around w inner)) : inner ∈ args := by
  unfold argumentProduction at h
  split at h
  · split at h
    · simp_all
    · simp at h
  · split at h
    · split at h
      · simp_all
      · simp at h
    · split at h
      · split at h
        · simp only [Except.ok.injEq, Production.around.injEq] at h
          simp [h.2]
        · simp at h
      · simp at h

theorem length_le_of_bodyProduction {text body inner : List Char} {base : String} {w : Wrapper}
    (h : bodyProduction text base body = .ok (.around w inner)) : inner.length ≤ body.length := by
  unfold bodyProduction at h
  split at h
  · simp at h
  · rename_i args hp
    split at h
    · simp at h
    · obtain ⟨a, ha, rfl⟩ := List.mem_map.1 (mem_of_argumentProduction h)
      exact Nat.le_trans (length_trim_le a) (length_le_of_mem_topPieces hp ha)

theorem length_lt_of_subscriptProduction {text source inner : List Char} {w : Wrapper}
    (h : subscriptProduction text source = .ok (.around w inner)) :
    inner.length < source.length := by
  unfold subscriptProduction at h
  have hle := length_dropWhile_le (· != '[') source
  split at h
  · rename_i c front d after hf hd
    split at h
    · simp at h
    · have := length_le_of_bodyProduction h
      rw [hd, List.length_cons] at hle
      rw [List.length_dropLast] at this
      omega
  · simp at h

theorem length_lt_of_plainProduction {text source inner : List Char} {w : Wrapper}
    (h : plainProduction text source = .ok (.around w inner)) : inner.length < source.length := by
  unfold plainProduction at h
  split at h
  · simp at h
  · rename_i p q rest hp
    obtain ⟨m, hm, rfl⟩ := List.mem_map.1 (mem_of_unionProduction h)
    exact Nat.lt_of_le_of_lt (length_trim_le m) (length_lt_of_mem_topPieces hp hm)
  · split at h
    · exact length_lt_of_subscriptProduction h
    · unfold nameProduction at h
      split at h
      · simp at h
      · cases hd : dottedName text source <;> simp [hd, Except.map] at h

/-- The reference inside a production is written in fewer characters. -/
theorem length_lt_of_production {text inner : List Char} {w : Wrapper}
    (h : production text = .ok (.around w inner)) : inner.length < text.length := by
  have hle := length_trim_le text
  unfold production at h
  split at h
  · simp at h
  · rename_i body hb
    have := length_lt_of_variableProduction h
    rw [hb, List.length_cons] at hle
    omega
  · exact Nat.lt_of_lt_of_le (length_lt_of_plainProduction h) hle

/-! ### Reading -/

/-- Reads a reference. -/
def read (text : List Char) : Except TypeFault TypeRef :=
  match _h : production text with
  | .error fault           => .error fault
  | .ok (.leaf r)          => .ok r
  | .ok (.around w inner)  => (read inner).map w.wrap
termination_by text.length
decreasing_by exact length_lt_of_production _h

/-- The reference a text stands for. -/
def ofText (text : String) : Except TypeFault TypeRef := read text.toList

end TypeCatalog.TypeRef
