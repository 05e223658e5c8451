import TypeCatalog.Proofs.Live.Loading

/-! # Live classes — which module decides

A dotted name can be cut into the path of a module and a path inside the module at each of its full
stops.  Loading goes through the cuts from the longest module path to the shortest.  It goes past a
cut (`Passes`) as long as no module is loaded under the path and the policy or a failure keeps it
from being imported; the first cut at which a module is there, or code escapes from the import,
decides (`Decides`).  From then on nothing is tried: what shorter paths stand for makes no
difference, and what the decided module does not have is not looked for elsewhere.

* `search_decided`: a search goes past all cuts, or one cut decides.
* `Decides.unique`, `Decides.not_passes`: never more than one, and none where all are gone past.
* `Decides.search_eq`: shorter paths than the one that decides make no difference.
* `follow_eq_present_iff`, `follow_eq_iff_breaksOff`: where reading attributes one off the other
  leads.
* `load_decided`: what loading comes to, for every process, policy and name.
-/

namespace TypeCatalog.Live

open Text (components path)

/-! ### Cuts -/

/-- The cuts of a name are all the ways to cut it in two. -/
theorem mem_cuts_iff {parts front rest : List String} :
    (front, rest) ∈ cuts parts ↔ parts = front ++ rest ∧ front ≠ [] ∧ rest ≠ [] := by
  refine ⟨of_mem_cuts, ?_⟩
  rintro ⟨rfl, hf, hr⟩
  have front_pos := List.length_pos_iff.2 hf
  have rest_pos := List.length_pos_iff.2 hr
  have last : front.length - 1 + 1 = front.length := by omega
  simp only [cuts, List.mem_map, List.mem_reverse, List.mem_range, Prod.mk.injEq,
    List.length_append]
  refine ⟨front.length - 1, by omega, ?_, ?_⟩
  · rw [last, List.take_left]
  · rw [last, List.drop_left]

/-- The longest module path comes first. -/
theorem pairwise_cuts (parts : List String) :
    (cuts parts).Pairwise fun c d => d.1.length < c.1.length := by
  rw [cuts, List.pairwise_map, List.pairwise_reverse]
  refine List.pairwise_lt_range.imp_of_mem fun hi hj hij => ?_
  rw [List.mem_range] at hi hj
  simp only [List.length_take]
  omega

/-- Of two paths that a name is cut at, the longer starts with the shorter. -/
theorem prefix_of_mem_cuts {parts : List String} {c d : List String × List String}
    (hc : c ∈ cuts parts) (hd : d ∈ cuts parts) (h : c.1.length ≤ d.1.length) : c.1 <+: d.1 := by
  have hc : c.1 <+: parts := ⟨c.2, (of_mem_cuts hc).1.symm⟩
  have hd : d.1 <+: parts := ⟨d.2, (of_mem_cuts hd).1.symm⟩
  exact List.prefix_of_prefix_length_le hc hd h

section

variable {σ Obj Class : Type}

variable {p q : Process σ Obj Class} {policy : Policy} {name : String} {s s' s'' : σ}
  {cs : List (List String × List String)} {c : List String × List String}
  {front rest front' rest' : List String} {r r' : Except Escape Obj}

/-! ### Which cut decides -/

/-- A path decides a search: a module is loaded under it, or it is admitted, and importing it gives
a module or lets code escape. -/
inductive Settles (p : Process σ Obj Class) (policy : Policy) (s : σ) :
    (front : List String) → Except Escape Obj → σ → Prop where
  | loaded {front : List String} {m : Obj} (loaded : p.loaded? s (path front) = some m) :
      Settles p policy s front (.ok m) s
  | imported {front : List String} {m : Obj} {s' : σ} (unloaded : p.loaded? s (path front) = none)
      (admitted : policy.admits (path front) = true)
      (imported : p.importModule s (path front) = (.module m, s')) :
      Settles p policy s front (.ok m) s'
  | escaped {front : List String} {e : Escape} {s' : σ}
      (unloaded : p.loaded? s (path front) = none)
      (admitted : policy.admits (path front) = true)
      (escaped : p.importModule s (path front) = (.escaped e, s')) :
      Settles p policy s front (.error e) s'

/-- The first of the cuts that are not gone past: it decides, with the module `.ok m` or the escape
`.error e`, and leaves the state `s'`. -/
inductive Decides (p : Process σ Obj Class) (policy : Policy) :
    List (List String × List String) → σ → (front rest : List String) → Except Escape Obj → σ →
      Prop where
  | here {front rest : List String} {cs : List (List String × List String)} {s s' : σ}
      {r : Except Escape Obj} (settles : Settles p policy s front r s') :
      Decides p policy ((front, rest) :: cs) s front rest r s'
  | later {c : List String × List String} {cs : List (List String × List String)} {s s₁ s' : σ}
      {front rest : List String} {r : Except Escape Obj} (passes : Passes p policy [c] s s₁)
      (more : Decides p policy cs s₁ front rest r s') :
      Decides p policy (c :: cs) s front rest r s'

theorem passes_cons_iff :
    Passes p policy (c :: cs) s s' ↔ ∃ s₁, Passes p policy [c] s s₁ ∧ Passes p policy cs s₁ s' := by
  constructor
  · intro h
    cases h with
    | barred unloaded barred more => exact ⟨_, .barred unloaded barred .nil, more⟩
    | missing unloaded admitted hi more => exact ⟨_, .missing unloaded admitted hi .nil, more⟩
    | failed unloaded admitted hi more => exact ⟨_, .failed unloaded admitted hi .nil, more⟩
  · rintro ⟨s₁, h, more⟩
    cases h with
    | barred unloaded barred nil => cases nil; exact .barred unloaded barred more
    | missing unloaded admitted hi nil => cases nil; exact .missing unloaded admitted hi more
    | failed unloaded admitted hi nil => cases nil; exact .failed unloaded admitted hi more

/-- **A search** goes past all cuts, or one of them decides. -/
theorem search_decided (p : Process σ Obj Class) (policy : Policy)
    (cs : List (List String × List String)) (s : σ) :
    (∃ s', Passes p policy cs s s') ∨
      ∃ front rest r s', Decides p policy cs s front rest r s' := by
  -- one cut more that is gone past changes neither
  have after {c : List String × List String} {cs : List (List String × List String)} {s s₁ : σ}
      (h : Passes p policy [c] s s₁)
      (more : (∃ s', Passes p policy cs s₁ s') ∨
        ∃ front rest r s', Decides p policy cs s₁ front rest r s') :
      (∃ s', Passes p policy (c :: cs) s s') ∨
        ∃ front rest r s', Decides p policy (c :: cs) s front rest r s' := by
    obtain ⟨s', more⟩ | ⟨front, rest, r, s', more⟩ := more
    · exact .inl ⟨s', passes_cons_iff.2 ⟨s₁, h, more⟩⟩
    · exact .inr ⟨front, rest, r, s', .later h more⟩
  fun_induction search p policy cs s with
  | case1 s => exact .inl ⟨s, .nil⟩
  | case2 front rest more s m loaded => exact .inr ⟨_, _, _, _, .here (.loaded loaded)⟩
  | case3 front rest more s unloaded admitted m s' imported =>
      exact .inr ⟨_, _, _, _, .here (.imported unloaded admitted imported)⟩
  | case4 front rest more s unloaded admitted s' missing ih =>
      exact after (.missing unloaded admitted missing .nil) ih
  | case5 front rest more s unloaded admitted s' failed ih =>
      exact after (.failed unloaded admitted failed .nil) ih
  | case6 front rest more s unloaded admitted e s' escaped =>
      exact .inr ⟨_, _, _, _, .here (.escaped unloaded admitted escaped)⟩
  | case7 front rest more s unloaded barred ih =>
      exact after (.barred unloaded (by simpa using barred) .nil) ih

/-- The end of a search that is decided. -/
def Host.decided {Obj : Type} (rest : List String) : Except Escape Obj → Host Obj
  | .ok m    => .module m rest
  | .error e => .escaped e

theorem Host.decided_inj (h : Host.decided rest r = .decided rest r') : r = r' := by
  cases r <;> cases r' <;> simp_all [Host.decided]

theorem search_of_settles (h : Settles p policy s front r s') (rest : List String)
    (cs : List (List String × List String)) :
    (search p policy ((front, rest) :: cs) s).host = .decided rest r ∧
      (search p policy ((front, rest) :: cs) s).state = s' := by
  cases h with
  | loaded loaded => simp [search, loaded, Host.decided]
  | imported unloaded admitted imported =>
      simp [search, unloaded, admitted, imported, Host.decided]
  | escaped unloaded admitted escaped => simp [search, unloaded, admitted, escaped, Host.decided]

theorem search_of_decides (h : Decides p policy cs s front rest r s') :
    (search p policy cs s).host = .decided rest r ∧ (search p policy cs s).state = s' := by
  induction h with
  | here settles => exact search_of_settles settles _ _
  | later passes _ ih =>
      obtain ⟨host, state⟩ := search_of_passes passes _
      rw [List.singleton_append] at host state
      rw [host, state]
      exact ih

/-- Where all cuts are gone past, none of them decides. -/
theorem Decides.not_passes (h : Decides p policy cs s front rest r s') :
    ¬ Passes p policy cs s s'' := by
  intro passes
  obtain ⟨host, -⟩ := search_of_decides h
  obtain ⟨none, -⟩ := search_of_passes passes []
  rw [List.append_nil, host] at none
  cases r <;> cases none

theorem Passes.state_eq (h : Passes p policy cs s s') (h' : Passes p policy cs s s'') :
    s' = s'' := by
  obtain ⟨-, state⟩ := search_of_passes h []
  obtain ⟨-, state'⟩ := search_of_passes h' []
  exact state.symm.trans state'

/-- No more than one cut decides. -/
theorem Decides.unique (h : Decides p policy cs s front rest r s')
    (h' : Decides p policy cs s front' rest' r' s'') :
    front = front' ∧ rest = rest' ∧ r = r' ∧ s' = s'' := by
  induction h with
  | here settles =>
      cases h' with
      | here settles' =>
          obtain ⟨host, state⟩ := search_of_settles settles rest []
          obtain ⟨host', state'⟩ := search_of_settles settles' rest []
          exact ⟨rfl, rfl, Host.decided_inj (host.symm.trans host'), state.symm.trans state'⟩
      | later passes _ => exact absurd passes (Decides.not_passes (.here settles))
  | later passes _ ih =>
      cases h' with
      | here settles => exact absurd passes (Decides.not_passes (.here settles))
      | later passes' more =>
          cases passes.state_eq passes'
          exact ih more

theorem Decides.mem (h : Decides p policy cs s front rest r s') : (front, rest) ∈ cs := by
  induction h with
  | here _ => exact List.mem_cons_self
  | later _ _ ih => exact List.mem_cons_of_mem _ ih

/-! ### What is tried -/

/-- Imports are tried in the order of the cuts. -/
theorem attempts_sublist (p : Process σ Obj Class) (policy : Policy)
    (cs : List (List String × List String)) (s : σ) :
    ((search p policy cs s).attempts.map Attempt.module).Sublist (cs.map fun c => path c.1) := by
  fun_induction search p policy cs s with
  | case1 => exact .slnil
  | case2 | case3 | case6 => simp
  | case4 front rest more s hl admitted s' hi ih | case5 front rest more s hl admitted s' hi ih =>
      exact ih.cons_cons _
  | case7 front rest more s hl barred ih => exact ih.cons _

/-- The process `q` does the same as `p` when it is asked for a module with the path `front`. -/
def AgreesAt (p q : Process σ Obj Class) (front : List String) : Prop :=
  ∀ s, q.loaded? s (path front) = p.loaded? s (path front) ∧
    q.importModule s (path front) = p.importModule s (path front)

/-- **Shorter paths make no difference.**  If the cut at `front` decides, and another process does
the same when it is asked for modules with paths that are no shorter, its search is the same. -/
theorem Decides.search_eq (h : Decides p policy cs s front rest r s')
    (ordered : cs.Pairwise fun c d => d.1.length < c.1.length)
    (agree : ∀ c ∈ cs, front.length ≤ c.1.length → AgreesAt p q c.1) :
    search q policy cs s = search p policy cs s := by
  induction h with
  | @here front rest cs s s' r settles =>
      obtain ⟨same, sameImport⟩ := agree _ List.mem_cons_self (Nat.le_refl _) s
      dsimp only at same sameImport
      cases settles with
      | loaded loaded => simp only [search, same, loaded]
      | imported unloaded admitted imported | escaped unloaded admitted imported =>
          simp only [search, same, sameImport, unloaded, admitted, imported, if_true]
  | @later c cs s s₁ s' front rest r passes more ih =>
      -- a cut that is gone past has a longer path than the one that decides
      obtain ⟨longer, ordered⟩ := List.pairwise_cons.1 ordered
      obtain ⟨same, sameImport⟩ :=
        agree c List.mem_cons_self (Nat.le_of_lt (longer _ more.mem)) s
      have ih := ih ordered fun d hd => agree d (List.mem_cons_of_mem c hd)
      cases passes with
      | barred unloaded barred nil =>
          cases nil
          simp only [search, same, unloaded, barred, ih, Bool.false_eq_true, if_false]
      | missing unloaded admitted missing nil | failed unloaded admitted missing nil =>
          cases nil
          simp only [search, same, sameImport, unloaded, admitted, missing, ih, if_true]

/-- Nothing is tried with a path that is shorter than the one that decides. -/
theorem Decides.attempts (h : Decides p policy cs s front rest r s')
    (ordered : cs.Pairwise fun c d => d.1.length < c.1.length) :
    ∀ a ∈ (search p policy cs s).attempts,
      ∃ c ∈ cs, front.length ≤ c.1.length ∧ a.module = path c.1 := by
  induction h with
  | @here front rest cs s s' r settles =>
      intro a ha
      have hm : a.module = path front := by
        cases settles with
        | loaded loaded => simp [search, loaded] at ha
        | imported unloaded admitted imported | escaped unloaded admitted imported =>
            simp only [search, unloaded, admitted, imported, if_true, List.mem_singleton] at ha
            rw [ha]
      exact ⟨_, List.mem_cons_self, Nat.le_refl _, hm⟩
  | @later c cs s s₁ s' front rest r passes more ih =>
      obtain ⟨longer, ordered⟩ := List.pairwise_cons.1 ordered
      intro a ha
      have split : a.module = path c.1 ∨ a ∈ (search p policy cs s₁).attempts := by
        cases passes with
        | barred unloaded barred nil =>
            cases nil
            exact .inr (by simpa [search, unloaded, barred] using ha)
        | missing unloaded admitted missing nil | failed unloaded admitted missing nil =>
            cases nil
            rw [search, unloaded] at ha
            simp only [admitted, missing, if_true, Search.after, List.mem_cons] at ha
            exact ha.imp_left fun h => by rw [h]
      obtain hm | ha := split
      · exact ⟨c, List.mem_cons_self, Nat.le_of_lt (longer _ more.mem), hm⟩
      · obtain ⟨d, hd, length, hm⟩ := ih ordered a ha
        exact ⟨d, List.mem_cons_of_mem c hd, length, hm⟩

/-! ### Reading attributes -/

/-- Reading the attributes `names`, one off the other, leads from `o` to an object. -/
inductive Leads (p : Process σ Obj Class) (s : σ) : Obj → List String → Obj → Prop where
  | here {o : Obj} : Leads p s o [] o
  | read {o o₁ o' : Obj} {a : String} {names : List String} (read : p.member s o a = .present o₁)
      (more : Leads p s o₁ names o') : Leads p s o (a :: names) o'

/-- Reading the attributes `names`, one off the other, breaks off: one of them comes to `found`,
which is no object. -/
inductive BreaksOff (p : Process σ Obj Class) (s : σ) (found : Attribute Obj) :
    Obj → List String → Prop where
  | here {o : Obj} {a : String} {names : List String} (read : p.member s o a = found)
      (none : ∀ o', found ≠ .present o') : BreaksOff p s found o (a :: names)
  | read {o o₁ : Obj} {a : String} {names : List String} (read : p.member s o a = .present o₁)
      (more : BreaksOff p s found o₁ names) : BreaksOff p s found o (a :: names)

theorem follow_eq_present_iff {o o' : Obj} {names : List String} :
    follow p s o names = .present o' ↔ Leads p s o names o' := by
  constructor
  · intro h
    induction names generalizing o with
    | nil =>
        cases h
        exact .here
    | cons a names ih =>
        cases hm : p.member s o a with
        | present o₁ => exact .read hm (ih (by simpa [follow, hm] using h))
        | absent | escaped e => simp [follow, hm] at h
  · intro h
    induction h with
    | here => rfl
    | read read _ ih => simpa [follow, read] using ih

theorem follow_eq_iff_breaksOff {o : Obj} {names : List String} {found : Attribute Obj}
    (none : ∀ o', found ≠ .present o') :
    follow p s o names = found ↔ BreaksOff p s found o names := by
  constructor
  · intro h
    induction names generalizing o with
    | nil => exact absurd h.symm (none o)
    | cons a names ih =>
        cases hm : p.member s o a with
        | present o₁ => exact .read hm (ih (by simpa [follow, hm] using h))
        | absent | escaped e =>
            rw [follow, hm] at h
            exact .here (hm.trans h) none
  · intro h
    induction h with
    | @here o a names read _ =>
        rw [follow, read]
        cases found with
        | present o' => exact absurd rfl (none o')
        | absent | escaped e => rfl
    | read read _ ih => simpa [follow, read] using ih

/-! ### Loading -/

theorem expectClass_eq_found_iff {found : Attribute Obj} {c : Class} :
    expectClass p name found = .found c ↔ ∃ o, found = .present o ∧ p.asClass o = .ok c := by
  cases found with
  | absent | escaped e => simp [expectClass]
  | present o => cases ho : p.asClass o <;> simp [expectClass, ho]

/-- What loading `name` comes to where its last parts `rest` are read off the module `m`: the class
they lead to, or a fault that says what is wrong.  It comes to one of these unless reading one of
the attributes lets code escape. -/
structure ReadFrom (p : Process σ Obj Class) (name : String) (s : σ) (m : Obj) (rest : List String)
    (result : Loaded Class) : Prop where
  found : ∀ c, result = .found c ↔ ∃ o, Leads p s m rest o ∧ p.asClass o = .ok c
  noAttribute : BreaksOff p s .absent m rest → result = .refused ⟨name, .noAttribute⟩
  notClass : ∀ o type, Leads p s m rest o → p.asClass o = .error type →
    result = .refused ⟨name, .notClass type⟩
  answered : (∀ e, ¬ BreaksOff p s (.escaped e) m rest) →
    (∃ c, result = .found c) ∨ ∃ flaw, result = .refused ⟨name, flaw⟩

theorem readFrom_expectClass (p : Process σ Obj Class) (name : String) (s : σ) (m : Obj)
    (rest : List String) : ReadFrom p name s m rest (expectClass p name (follow p s m rest)) where
  found c := by simp only [expectClass_eq_found_iff, follow_eq_present_iff]
  noAttribute lacking := by rw [(follow_eq_iff_breaksOff (by simp)).2 lacking, expectClass]
  notClass o type leads ho := by rw [follow_eq_present_iff.2 leads, expectClass, ho]
  answered quiet := by
    cases hf : follow p s m rest with
    | absent => exact .inr ⟨_, rfl⟩
    | escaped e => exact absurd ((follow_eq_iff_breaksOff (by simp)).1 hf) (quiet e)
    | present o =>
        cases ho : p.asClass o with
        | ok c => exact .inl ⟨c, by rw [expectClass, ho]⟩
        | error type => exact .inr ⟨.notClass type, by rw [expectClass, ho]⟩

/-- What loading `name` comes to where a module, or an escape from importing it, decides. -/
def IsOutcome (p : Process σ Obj Class) (name : String) (s : σ) (rest : List String) :
    Except Escape Obj → Loaded Class → Prop
  | .ok m,    result => ReadFrom p name s m rest result
  | .error e, result => result = .escaped e

/-- What a bare name comes to. -/
theorem load_of_builtin (h : "" ∉ components name) (bare : (components name).length = 1) :
    (∀ c, (load p policy name s).result = .found c ↔
      ∃ o, p.builtin? s name = some o ∧ p.asClass o = .ok c) ∧
    ((∃ c, (load p policy name s).result = .found c) ∨
      ∃ flaw, (load p policy name s).result = .refused ⟨name, flaw⟩) := by
  rw [load_of_bare h bare]
  cases hb : p.builtin? s name with
  | none => simp [builtinAttribute, hb, expectClass]
  | some o => cases ho : p.asClass o <;> simp [builtinAttribute, hb, expectClass, ho]

section

variable (complete : "" ∉ components name) (dotted : 1 < (components name).length)

include complete dotted

theorem load_of_passes (h : Passes p policy (cuts (components name)) s s') :
    (load p policy name s).result = .refused ⟨name, .noModule⟩ := by
  obtain ⟨host, -⟩ := search_of_passes h []
  rw [List.append_nil] at host
  rw [load_of_dotted complete (by omega)]
  simp only [host, search, ofHost]

theorem load_of_decides (h : Decides p policy (cuts (components name)) s front rest r s') :
    IsOutcome p name s' rest r (load p policy name s).result := by
  obtain ⟨host, state⟩ := search_of_decides h
  rw [load_of_dotted complete (by omega)]
  cases r with
  | ok m =>
      simp only [host, state, Host.decided, ofHost]
      exact readFrom_expectClass p name s' m rest
  | error e => simp only [host, Host.decided, ofHost, IsOutcome]

end

/-- Imports are asked for in the order of the cuts. -/
theorem asked_sublist (p : Process σ Obj Class) (policy : Policy) (name : String) (s : σ) :
    ((load p policy name s).attempts.map fun a => components a.module).Sublist
      ((cuts (components name)).map Prod.fst) := by
  by_cases h : "" ∈ components name
  · rw [load_of_malformed h]
    exact List.nil_sublist _
  · by_cases bare : (components name).length = 1
    · rw [load_of_bare h bare]
      exact List.nil_sublist _
    · rw [load_of_dotted h bare]
      have inOrder := (attempts_sublist p policy (cuts (components name)) s).map components
      rw [List.map_map, List.map_map] at inOrder
      have back : (cuts (components name)).map (components ∘ fun c => path c.1)
          = (cuts (components name)).map Prod.fst :=
        List.map_congr_left fun c hc => components_of_mem_cuts hc
      rw [back] at inOrder
      exact inOrder

theorem Decides.prefix_asked (h : Decides p policy (cuts (components name)) s front rest r s')
    (complete : "" ∉ components name) (dotted : 1 < (components name).length) :
    ∀ a ∈ (load p policy name s).attempts, front <+: components a.module := by
  rw [load_of_dotted complete (by omega)]
  intro a ha
  obtain ⟨c, hc, length, hm⟩ := h.attempts (pairwise_cuts _) a ha
  rw [hm, components_of_mem_cuts hc]
  exact prefix_of_mem_cuts h.mem hc length

theorem follow_congr (member : q.member = p.member) (s : σ) (o : Obj) (names : List String) :
    follow q s o names = follow p s o names := by
  induction names generalizing o with
  | nil => rfl
  | cons a names ih =>
      rw [follow, follow, member]
      cases p.member s o a with
      | present o' => exact ih o'
      | absent | escaped e => rfl

/-- **What is below the module that decides** is all that counts: loading from a process that does
the same there, and whose objects are the same, is the same. -/
theorem Decides.load_eq (h : Decides p policy (cuts (components name)) s front rest r s')
    (complete : "" ∉ components name) (dotted : 1 < (components name).length)
    (member : q.member = p.member) (asClass : q.asClass = p.asClass)
    (agree : ∀ longer, front <+: longer → AgreesAt p q longer) :
    load q policy name s = load p policy name s := by
  have same := h.search_eq (q := q) (pairwise_cuts _) fun c hc length =>
    agree c.1 (prefix_of_mem_cuts h.mem hc length)
  rw [load_of_dotted complete (by omega), load_of_dotted complete (by omega), same]
  have ofHost_eq (s : σ) (host : Host Obj) : ofHost q name s host = ofHost p name s host := by
    cases host with
    | module m rest =>
        rw [ofHost, ofHost, follow_congr member]
        cases follow p s m rest <;> simp only [expectClass, asClass]
    | none | escaped e => rfl
  simp only [ofHost_eq]

/-- **Which module decides what a name stands for.**  A name with an empty part is malformed, and a
bare name is that of a built-in class or of nothing that can be loaded.  A dotted name is cut into
the path of a module and a path inside it in all the ways there are, the longest module path first.
Either all of the cuts are gone past, and there is no module for the name; or one cut decides, and
only one: the first at which a module is loaded, or is admitted and importing it neither finds
nothing nor fails.  If importing lets code escape, so does loading.  Otherwise the class that the
other parts lead to is found, and if they lead to none the name is refused, unless reading one of
them lets code escape.  Imports are asked for in the order of the cuts, and none for a path shorter
than the one that decides; and nothing that shorter paths stand for makes a difference. -/
theorem load_decided (p : Process σ Obj Class) (policy : Policy) (name : String) (s : σ) :
    let parts := components name
    let result := (load p policy name s).result
    let asked := (load p.watched policy name (s, [])).state.2
    ("" ∈ parts → result = .refused ⟨name, .malformed⟩) ∧
    ("" ∉ parts → parts.length = 1 →
      (∀ c, result = .found c ↔ ∃ o, p.builtin? s name = some o ∧ p.asClass o = .ok c) ∧
      ((∃ c, result = .found c) ∨ ∃ flaw, result = .refused ⟨name, flaw⟩)) ∧
    ("" ∉ parts → 1 < parts.length →
      (∃ s', Passes p policy (cuts parts) s s' ∧ result = .refused ⟨name, .noModule⟩) ∨
      ∃ front rest r s', Decides p policy (cuts parts) s front rest r s' ∧
        (∀ front' rest' r' s'', Decides p policy (cuts parts) s front' rest' r' s'' →
          front' = front) ∧
        IsOutcome p name s' rest r result ∧
        (∀ a ∈ asked, front <+: components a.module) ∧
        ∀ q : Process σ Obj Class, q.member = p.member → q.asClass = p.asClass →
          (∀ longer, front <+: longer → AgreesAt p q longer) →
          load q policy name s = load p policy name s) ∧
    (∀ front rest, (front, rest) ∈ cuts parts ↔ parts = front ++ rest ∧ front ≠ [] ∧ rest ≠ []) ∧
    (cuts parts).Pairwise (fun c d => d.1.length < c.1.length) ∧
    (asked.map fun a => components a.module).Sublist ((cuts parts).map Prod.fst) := by
  intro parts result asked
  have hasked : asked = (load p policy name s).attempts := by
    simp [asked, (load_watched p policy name s []).2]
  rw [hasked]
  refine ⟨fun h => ?_, load_of_builtin, fun complete dotted => ?_, fun _ _ => mem_cuts_iff,
    pairwise_cuts parts, asked_sublist p policy name s⟩
  · simp only [result, load_of_malformed h]
  · obtain ⟨s', passes⟩ | ⟨front, rest, r, s', decides⟩ := search_decided p policy (cuts parts) s
    · exact .inl ⟨s', passes, load_of_passes complete dotted passes⟩
    · refine .inr ⟨front, rest, r, s', decides, fun _ _ _ _ h => (h.unique decides).1, ?_, ?_, ?_⟩
      · exact load_of_decides complete dotted decides
      · exact decides.prefix_asked complete dotted
      · exact fun q => decides.load_eq complete dotted

end

/-- A name need not be found or refused: from a world with a module that exits when it is imported,
loading a name inside the module exits. -/
theorem not_found_or_refused : ¬ ∀ (w : Setting) (policy : Policy) (name : String)
    (loaded : Imported), (∃ c, (load w.process policy name loaded).result = .found c) ∨
      ∃ fault, (load w.process policy name loaded).result = .refused fault := by
  intro h
  let w : Setting := ⟨⟨[("exiter", ⟨.exits, [], []⟩)], []⟩, .empty⟩
  have exits : (load w.process .free "exiter.X" []).result = .escaped (.exit 3) := by rfl
  obtain ⟨c, found⟩ | ⟨fault, refused⟩ := h w .free "exiter.X" []
  · cases exits.symm.trans found
  · cases exits.symm.trans refused

end TypeCatalog.Live
