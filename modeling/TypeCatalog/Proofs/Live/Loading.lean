import TypeCatalog.Live.Loader
import TypeCatalog.Live.Modules
import TypeCatalog.Proofs.Text.Pieces

/-! # Live classes — what loading imports

Importing a module runs its code, so a process should import no more than it has to.  A search goes
down the paths of a name from the longest.  Where it finds a module loaded it stops; only where
there is none does it ask the policy, and only what the policy admits is imported.

A search keeps the list of the imports it tried.  That the list is true is seen from outside:
`watched` is a process that writes down in its own state what it is asked to import, and when.

* `search_attempts`: by induction on the paths, what each import that is tried has to satisfy.
* `load_watched`: a watched process is asked for the imports in the list, in that order.
* `permitted_of_load`: so loading a name imports only what is `Permitted` for it.
* `load_of_readOff`: a module that is loaded is used, whatever the policy.
* `load_ne_escaped`: where no code escapes, loading comes to a class or to a fault.
* `contained_process`: no code escapes from a world without modules that exit and attributes that
  raise.
-/

namespace TypeCatalog.Live

open Text (components path)

/-! ### Policies -/

/-- **What a policy admits**: if modules may be imported, those whose path starts with that of a
module on the list, component by component; any module if the list is empty. -/
theorem Policy.admits_iff {policy : Policy} {module : String} :
    policy.admits module = true ↔ policy.importModules = true ∧
      (policy.allowed ≠ [] → ∃ a ∈ policy.allowed, components a <+: components module) := by
  simp only [Policy.admits, Bool.and_eq_true, Bool.or_eq_true, List.isEmpty_iff, List.any_eq_true,
    Text.isBelow_iff]
  exact and_congr_right fun _ => (Classical.or_iff_not_imp_left)

/-! ### Cuts -/

theorem of_mem_cuts {parts front rest : List String} (h : (front, rest) ∈ cuts parts) :
    parts = front ++ rest ∧ front ≠ [] ∧ rest ≠ [] := by
  simp only [cuts, List.mem_map, List.mem_reverse, List.mem_range, Prod.mk.injEq] at h
  obtain ⟨i, hi, rfl, rfl⟩ := h
  refine ⟨(List.take_append_drop _ _).symm, fun hn => ?_, fun hn => ?_⟩
  · have := congrArg List.length hn
    rw [List.length_take, List.length_nil] at this
    omega
  · have := congrArg List.length hn
    rw [List.length_drop, List.length_nil] at this
    omega

/-- The components of a path that a name is cut at are those before the cut. -/
theorem components_of_mem_cuts {name : String} {c : List String × List String}
    (h : c ∈ cuts (components name)) : components (path c.1) = c.1 := by
  obtain ⟨hparts, hf, -⟩ := of_mem_cuts h
  refine Text.components_path hf fun part hp => ?_
  exact Text.not_mem_of_mem_components (hparts ▸ List.mem_append_left c.2 hp)

section

variable {σ Obj Class : Type}

variable {p : Process σ Obj Class} {policy : Policy} {name : String} {s s' : σ}
  {cs : List (List String × List String)}

/-! ### Imports that are tried -/

/-- An import that a search through `cs` may try: its module is that of one of the cuts, is not
loaded when it is tried, and is admitted by the policy. -/
structure Tried (p : Process σ Obj Class) (policy : Policy) (cs : List (List String × List String))
    (a : Attempt σ) : Prop where
  cut : ∃ c ∈ cs, a.module = path c.1
  unloaded : p.loaded? a.before a.module = none
  admitted : policy.admits a.module = true

theorem Tried.first {front rest : List String} (hl : p.loaded? s (path front) = none)
    (admitted : policy.admits (path front) = true) :
    Tried p policy ((front, rest) :: cs) ⟨path front, s⟩ :=
  ⟨⟨_, List.mem_cons_self, rfl⟩, hl, admitted⟩

theorem Tried.later {a : Attempt σ} (h : Tried p policy cs a) (c : List String × List String) :
    Tried p policy (c :: cs) a := by
  obtain ⟨⟨d, hd, hm⟩, unloaded, admitted⟩ := h
  exact ⟨⟨d, List.mem_cons_of_mem _ hd, hm⟩, unloaded, admitted⟩

/-- **A search** tries no other imports. -/
theorem search_attempts (p : Process σ Obj Class) (policy : Policy)
    (cs : List (List String × List String)) (s : σ) :
    ∀ a ∈ (search p policy cs s).attempts, Tried p policy cs a := by
  fun_induction search p policy cs s with
  | case1 | case2 => simp
  | case3 front rest more s hl admitted m s' hi =>
      intro a ha
      obtain rfl := List.mem_singleton.1 ha
      exact .first hl admitted
  | case4 front rest more s hl admitted s' hi ih | case5 front rest more s hl admitted s' hi ih =>
      intro a ha
      rcases List.mem_cons.1 ha with rfl | ha
      · exact .first hl admitted
      · exact (ih a ha).later _
  | case6 front rest more s hl admitted e s' hi =>
      intro a ha
      obtain rfl := List.mem_singleton.1 ha
      exact .first hl admitted
  | case7 front rest more s hl barred ih => exact fun a ha => (ih a ha).later _

/-- An import that may be tried for a name: its module is one of the packages around the name, is
not loaded when it is tried, and is admitted by the policy. -/
structure Permitted (p : Process σ Obj Class) (policy : Policy) (name : String) (a : Attempt σ) :
    Prop where
  around : ∃ rest, rest ≠ [] ∧ components name = components a.module ++ rest
  unloaded : p.loaded? a.before a.module = none
  importing : policy.importModules = true
  listed : policy.allowed ≠ [] →
    ∃ ancestor ∈ policy.allowed, components ancestor <+: components a.module

theorem Tried.permitted {a : Attempt σ} (h : Tried p policy (cuts (components name)) a) :
    Permitted p policy name a := by
  obtain ⟨⟨⟨front, rest⟩, hc, hm⟩, unloaded, admitted⟩ := h
  obtain ⟨hparts, -, hr⟩ := of_mem_cuts hc
  have hfront : components a.module = front := by rw [hm, components_of_mem_cuts hc]
  obtain ⟨importing, listed⟩ := Policy.admits_iff.1 admitted
  exact ⟨⟨rest, hr, hfront ▸ hparts⟩, unloaded, importing, listed⟩

/-! ### Loading, by the form of the name -/

theorem load_of_malformed (h : "" ∈ components name) (s : σ) :
    load p policy name s = ⟨.refused ⟨name, .malformed⟩, [], [], s⟩ :=
  if_pos (by simpa using h)

/-- A bare name is that of a built-in object. -/
theorem load_of_bare (h : "" ∉ components name) (bare : (components name).length = 1) (s : σ) :
    load p policy name s = ⟨expectClass p name (builtinAttribute p s name), [], [], s⟩ :=
  (if_neg (by simpa using h)).trans (if_pos bare)

/-- A dotted name is searched for. -/
theorem load_of_dotted (h : "" ∉ components name) (dotted : (components name).length ≠ 1) (s : σ) :
    load p policy name s =
      let found := search p policy (cuts (components name)) s
      ⟨ofHost p name found.state found.host, found.attempts, found.events, found.state⟩ :=
  (if_neg (by simpa using h)).trans (if_neg dotted)

/-- **Loading a name** tries only imports that are permitted for it. -/
theorem permitted_of_load (p : Process σ Obj Class) (policy : Policy) (name : String) (s : σ) :
    ∀ a ∈ (load p policy name s).attempts, Permitted p policy name a := by
  by_cases h : "" ∈ components name
  · rw [load_of_malformed h]
    simp
  · by_cases bare : (components name).length = 1
    · rw [load_of_bare h bare]
      simp
    · rw [load_of_dotted h bare]
      exact fun a ha => (search_attempts p policy _ _ a ha).permitted

/-! ### The list of imports is true -/

/-- The process with a record of the imports it has been asked for, and when. -/
def Process.watched (p : Process σ Obj Class) : Process (σ × List (Attempt σ)) Obj Class where
  loaded? s name := p.loaded? s.1 name
  importModule s name :=
    let i := p.importModule s.1 name
    (i.1, i.2, s.2 ++ [⟨name, s.1⟩])
  builtin? s name := p.builtin? s.1 name
  member s o name := p.member s.1 o name
  asClass := p.asClass
  qualifiedName := p.qualifiedName
  isSubclass s candidate base := p.isSubclass s.1 candidate base

theorem importModule_watched {module : String} {i : Import Obj}
    (h : p.importModule s module = (i, s')) (asked : List (Attempt σ)) :
    p.watched.importModule (s, asked) module = (i, s', asked ++ [⟨module, s⟩]) := by
  simp [Process.watched, h]

theorem follow_watched (s : σ) (asked : List (Attempt σ)) (o : Obj) (path : List String) :
    follow p.watched (s, asked) o path = follow p s o path := by
  induction path generalizing o with
  | nil => rfl
  | cons name path ih =>
      have hm : p.watched.member (s, asked) o name = p.member s o name := rfl
      rw [follow, follow, hm]
      cases p.member s o name with
      | present o' => exact ih o'
      | absent | escaped e => rfl

theorem ofHost_watched (name : String) (s : σ) (asked : List (Attempt σ)) (host : Host Obj) :
    ofHost p.watched name (s, asked) host = ofHost p name s host := by
  cases host with
  | module m rest =>
      rw [ofHost, ofHost, follow_watched]
      rfl
  | none | escaped e => rfl

theorem search_watched (p : Process σ Obj Class) (policy : Policy)
    (cs : List (List String × List String)) (s : σ) (asked : List (Attempt σ)) :
    (search p.watched policy cs (s, asked)).host = (search p policy cs s).host ∧
      (search p.watched policy cs (s, asked)).state
        = ((search p policy cs s).state, asked ++ (search p policy cs s).attempts) := by
  fun_induction search p policy cs s generalizing asked with
  | case1 s => simp [search]
  | case2 front rest more s m hl => simp [search, Process.watched, hl]
  | case3 front rest more s hl admitted m s' hi | case6 front rest more s hl admitted m s' hi =>
      simp [search, Process.watched, hl, admitted, hi]
  | case4 front rest more s hl admitted s' hi ih | case5 front rest more s hl admitted s' hi ih =>
      obtain ⟨host, state⟩ := ih (asked ++ [⟨path front, s⟩])
      have hl : p.watched.loaded? (s, asked) (path front) = none := hl
      have hi := importModule_watched hi asked
      simp [search, hl, admitted, hi, Search.after, host, state]
  | case7 front rest more s hl barred ih =>
      have hl : p.watched.loaded? (s, asked) (path front) = none := hl
      simpa [search, hl, barred] using ih asked

/-- **The list of imports is true.**  Loading from a watched process comes to the same, and the
process is asked for the imports in the list, in that order, each in the state that goes with it. -/
theorem load_watched (p : Process σ Obj Class) (policy : Policy) (name : String) (s : σ)
    (asked : List (Attempt σ)) :
    (load p.watched policy name (s, asked)).result = (load p policy name s).result ∧
      (load p.watched policy name (s, asked)).state
        = ((load p policy name s).state, asked ++ (load p policy name s).attempts) := by
  by_cases h : "" ∈ components name
  · simp [load_of_malformed h]
  · by_cases bare : (components name).length = 1
    · rw [load_of_bare h bare, load_of_bare h bare]
      exact ⟨rfl, by simp⟩
    · obtain ⟨host, state⟩ := search_watched p policy (cuts (components name)) s asked
      rw [load_of_dotted h bare, load_of_dotted h bare]
      simp only [host, state, and_true]
      exact ofHost_watched name _ _ _

/-! ### Modules that are loaded -/

/-- A search goes past cuts, from one state to another: under none of their paths a module is
loaded, and of the modules that may be imported none is there without failing. -/
inductive Passes (p : Process σ Obj Class) (policy : Policy) :
    List (List String × List String) → σ → σ → Prop where
  | nil {s : σ} : Passes p policy [] s s
  | barred {front rest : List String} {cs : List (List String × List String)} {s s' : σ}
      (unloaded : p.loaded? s (path front) = none) (barred : policy.admits (path front) = false)
      (more : Passes p policy cs s s') : Passes p policy ((front, rest) :: cs) s s'
  | missing {front rest : List String} {cs : List (List String × List String)} {s s₁ s' : σ}
      (unloaded : p.loaded? s (path front) = none) (admitted : policy.admits (path front) = true)
      (missing : p.importModule s (path front) = (.missing, s₁))
      (more : Passes p policy cs s₁ s') : Passes p policy ((front, rest) :: cs) s s'
  | failed {front rest : List String} {cs : List (List String × List String)} {s s₁ s' : σ}
      (unloaded : p.loaded? s (path front) = none) (admitted : policy.admits (path front) = true)
      (failed : p.importModule s (path front) = (.failed, s₁))
      (more : Passes p policy cs s₁ s') : Passes p policy ((front, rest) :: cs) s s'

/-- Where imports are off, every path without a loaded module is gone past. -/
theorem passes_of_off (off : policy.importModules = false)
    (unloaded : ∀ c ∈ cs, p.loaded? s (path c.1) = none) : Passes p policy cs s s := by
  induction cs with
  | nil => exact .nil
  | cons c cs ih =>
      have barred : policy.admits (path c.1) = false := by rw [Policy.admits, off, Bool.false_and]
      exact .barred (unloaded c List.mem_cons_self) barred
        (ih fun d hd => unloaded d (List.mem_cons_of_mem _ hd))

/-- A search goes on behind the cuts that it has gone past. -/
theorem search_of_passes (h : Passes p policy cs s s') (back : List (List String × List String)) :
    (search p policy (cs ++ back) s).host = (search p policy back s').host ∧
      (search p policy (cs ++ back) s).state = (search p policy back s').state := by
  induction h with
  | nil => exact ⟨rfl, rfl⟩
  | barred unloaded barred _ ih => simpa [search, unloaded, barred] using ih
  | missing unloaded admitted missing _ ih =>
      simpa [search, unloaded, admitted, missing, Search.after] using ih
  | failed unloaded admitted failed _ ih =>
      simpa [search, unloaded, admitted, failed, Search.after] using ih

/-- Down the paths of `name`, a module that is loaded comes first; in it, the name stands for
`found`. -/
inductive ReadOff (p : Process σ Obj Class) (policy : Policy) (name : String) (s : σ) :
    (found : Attribute Obj) → σ → Prop where
  | mk {passed later : List (List String × List String)} {front rest : List String} {m : Obj}
      {s' : σ} (complete : "" ∉ components name)
      (cut : cuts (components name) = passed ++ (front, rest) :: later)
      (passes : Passes p policy passed s s') (loaded : p.loaded? s' (path front) = some m) :
      ReadOff p policy name s (follow p s' m rest) s'

/-- **A module that is loaded is used**, whatever the policy says about it. -/
theorem load_of_readOff {found : Attribute Obj} (h : ReadOff p policy name s found s') :
    (load p policy name s).result = expectClass p name found ∧
      (load p policy name s).state = s' := by
  obtain @⟨passed, later, front, rest, m, _, complete, cut, passes, loaded⟩ := h
  have dotted : (components name).length ≠ 1 := by
    intro bare
    simp [cuts, bare] at cut
  obtain ⟨host, state⟩ := search_of_passes passes ((front, rest) :: later)
  have here : search p policy ((front, rest) :: later) s' = ⟨.module m rest, [], [], s'⟩ := by
    rw [search, loaded]
  rw [load_of_dotted complete dotted, cut]
  simp only [host, state, here, ofHost, and_self]

/-- Down the paths of `name`, a module that is loaded comes first, and the class `c` stands in it
under the name. -/
def Offers (p : Process σ Obj Class) (policy : Policy) (name : String) (s : σ) (c : Class)
    (s' : σ) : Prop :=
  ∃ o, ReadOff p policy name s (.present o) s' ∧ p.asClass o = .ok c

theorem load_of_offers {c : Class} (h : Offers p policy name s c s') :
    (load p policy name s).result = .found c ∧ (load p policy name s).state = s' := by
  obtain ⟨o, h, hc⟩ := h
  obtain ⟨result, state⟩ := load_of_readOff h
  exact ⟨by rw [result, expectClass, hc], state⟩

/-! ### Escapes -/

/-- Importing a module and reading an attribute let no code escape. -/
structure Process.Contained (p : Process σ Obj Class) : Prop where
  imports : ∀ s module e, (p.importModule s module).1 ≠ .escaped e
  members : ∀ s o name e, p.member s o name ≠ .escaped e

theorem search_ne_escaped (h : p.Contained) (policy : Policy)
    (cs : List (List String × List String)) (s : σ) (e : Escape) :
    (search p policy cs s).host ≠ .escaped e := by
  fun_induction search p policy cs s with
  | case1 | case2 | case3 => simp
  | case4 _ _ _ _ _ _ _ _ ih | case5 _ _ _ _ _ _ _ _ ih | case7 _ _ _ _ _ _ ih => exact ih
  | case6 front rest more s hl admitted e' s' hi =>
      exact absurd (congrArg Prod.fst hi) (h.imports s (path front) e')

theorem follow_ne_escaped (h : p.Contained) (s : σ) (o : Obj) (names : List String) (e : Escape) :
    follow p s o names ≠ .escaped e := by
  induction names generalizing o with
  | nil => simp [follow]
  | cons name names ih =>
      rw [follow]
      cases hm : p.member s o name with
      | present o' => exact ih o'
      | absent => simp
      | escaped e' => exact absurd hm (h.members s o name e')

theorem expectClass_ne_escaped {found : Attribute Obj} {e : Escape} (h : found ≠ .escaped e) :
    expectClass p name found ≠ .escaped e := by
  cases found with
  | present o => cases ho : p.asClass o <;> simp [expectClass, ho]
  | absent => simp [expectClass]
  | escaped e' => simpa [expectClass] using h

/-- **Where no code escapes**, loading comes to a class or to a fault. -/
theorem load_ne_escaped (h : p.Contained) (name : String) (s : σ) (e : Escape) :
    (load p policy name s).result ≠ .escaped e := by
  by_cases malformed : "" ∈ components name
  · simp [load_of_malformed malformed]
  · by_cases bare : (components name).length = 1
    · rw [load_of_bare malformed bare]
      refine expectClass_ne_escaped ?_
      unfold builtinAttribute
      split <;> simp
    · rw [load_of_dotted malformed bare]
      have hs := search_ne_escaped h policy (cuts (components name)) s e
      simp only
      cases hf : (search p policy (cuts (components name)) s).host with
      | module m rest => exact expectClass_ne_escaped (follow_ne_escaped h _ _ _ _)
      | none => simp [ofHost]
      | escaped e' =>
          rw [hf] at hs
          simpa [ofHost] using hs

end

/-! ### Worlds -/

namespace Setting

variable {w : Setting}

theorem mem_of_module? {name : String} {spec : ModuleSpec} (h : w.module? name = some spec) :
    (name, spec) ∈ w.world.modules := by
  obtain ⟨front, back, hm, -⟩ := List.lookup_eq_some_iff.1 h
  rw [hm]
  simp

theorem runBody_ne_escaped (stays : ∀ m ∈ w.world.modules, m.2.state ≠ .exits)
    (loaded : Imported) (name : String) (e : Escape) :
    (w.runBody loaded name).1 ≠ .escaped e := by
  unfold runBody
  split
  case h_5 hs =>
    obtain ⟨spec, hm, he⟩ := Option.map_eq_some_iff.1 hs
    exact absurd he (stays _ (mem_of_module? hm))
  all_goals simp

theorem importEach_ne_escaped (stays : ∀ m ∈ w.world.modules, m.2.state ≠ .exits)
    (names : List String) (loaded : Imported) (e : Escape) :
    (w.importEach names loaded).1 ≠ .escaped e := by
  induction names generalizing loaded with
  | nil => simp [importEach]
  | cons name names ih =>
      rw [importEach]
      split
      · cases names with
        | nil => simp
        | cons name' names => exact ih _
      · rename_i r hr
        intro he
        split at he
        · cases he
        · exact runBody_ne_escaped stays loaded name e he

theorem ofOption_ne_escaped (o : Option Obj) (e : Escape) : ofOption o ≠ .escaped e := by
  cases o <;> simp [ofOption]

theorem member_ne_escaped (quiet : ∀ m ∈ w.world.modules, m.2.raising = []) (loaded : Imported)
    (o : Obj) (name : String) (e : Escape) : w.member loaded o name ≠ .escaped e := by
  have ofModule (m : String) : w.moduleMember m name ≠ .escaped e := by
    unfold moduleMember
    split
    · exact ofOption_ne_escaped _ _
    · rename_i spec hm
      split
      · exact ofOption_ne_escaped _ _
      · rw [quiet _ (mem_of_module? hm)]
        simp
  have ofClass (c : ClassId) : w.classMember name c ≠ .escaped e := by
    unfold classMember
    dsimp only
    split
    · exact ofOption_ne_escaped _ _
    · simp
  have given : w.givenMember loaded o name ≠ .escaped e := by
    cases o with
    | module m =>
        rw [givenMember]
        split
        · simp
        · exact ofModule m
    | ofClass c => exact ofClass c
    | instanceOf c => exact ofClass c
    | value type => simp [givenMember]
  unfold member
  split
  · exact ofOption_ne_escaped _ _
  · exact given

/-- **Where no module exits and no attribute raises**, no code escapes from the process. -/
theorem contained_process (stays : ∀ m ∈ w.world.modules, m.2.state ≠ .exits)
    (quiet : ∀ m ∈ w.world.modules, m.2.raising = []) : w.process.Contained where
  imports loaded name e := by
    change (w.importModule loaded name).1 ≠ .escaped e
    unfold importModule
    split
    · simp
    · exact importEach_ne_escaped stays _ loaded e
  members loaded o name e := member_ne_escaped quiet loaded o name e

end Setting

end TypeCatalog.Live
