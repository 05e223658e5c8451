import TypeCatalog.Proofs.Live.Loading
import TypeCatalog.Subtype.Tester

/-! # Subtypes — what a test imports

A test may come to import modules: those that loading its subject, or its target, tries.  A policy
that keeps loading a name within bounds keeps every test within them.

* `test_watched_process`: a watched process is asked for the imports in the list of a test.
* `attempts_of_test`: they are tried while the subject or the target is loaded.
* `imports_permitted`: so both loading a name and testing import only what is permitted.
-/

namespace TypeCatalog.Subtype

open Live

variable {σ Class : Type}

/-! ### Imports are tried while a name is loaded -/

theorem attempts_of_consult (source : ClassSource σ Class) (s t : String) (gap : Gap) (state : σ) :
    ∀ a ∈ (consult source s t gap state).attempts,
      a ∈ (source.load s state).attempts ∨ ∃ state', a ∈ (source.load t state').attempts := by
  intro a ha
  cases hs : (source.load s state).result with
  | found candidate =>
      have ha : a ∈ (source.load s state).attempts ++
          (source.load t (source.load s state).state).attempts := by
        cases ht : (source.load t (source.load s state).state).result <;>
          simpa [consult, compareWith, hs, ht] using ha
      exact (List.mem_append.1 ha).imp_right fun h => ⟨_, h⟩
  | refused fault | escaped e => exact .inl (by simpa [consult, hs] using ha)

variable {options : Options} {index : ClassIndex} {subject target : TypeRef} {s t : String}

/-- A question about two names is left open about the same names. -/
theorem eq_of_askNames_undecided {s' t' : String} {gap : Gap} {reflexive : Bool}
    (h : (askNames reflexive index s t).finding = .undecided s' t' gap) : s = s' ∧ t = t' := by
  unfold askNames at h
  split at h
  · cases h
  · split at h
    · cases h
      exact ⟨rfl, rfl⟩
    · rename_i c _
      cases he : (walk index c t).ending <;> simp [he, Ending.finding] at h
      exact ⟨h.1, h.2.1⟩

/-- A question that is open is about the names of the subject and the target. -/
theorem names_of_undecided {gap : Gap} {reflexive : Bool}
    (h : (ask reflexive index subject target).finding = .undecided s t gap) :
    subject.canonicalName = .ok s ∧ target.canonicalName = .ok t := by
  cases hs : subject.canonicalName with
  | error fault =>
      rw [ask, hs] at h
      cases h
  | ok s' =>
      cases ht : target.canonicalName with
      | error fault =>
          rw [ask, hs, ht] at h
          cases h
      | ok t' =>
          rw [ask, hs, ht] at h
          obtain ⟨rfl, rfl⟩ := eq_of_askNames_undecided h
          exact ⟨rfl, rfl⟩

/-- **Imports of a test** are tried while its subject or its target is loaded. -/
theorem attempts_of_test (source : ClassSource σ Class) (state : σ) :
    ∀ a ∈ (test options source index subject target state).attempts, ∃ name state',
      (subject.canonicalName = .ok name ∨ target.canonicalName = .ok name) ∧
        a ∈ (source.load name state').attempts := by
  intro a ha
  cases hf : (ask options.reflexive index subject target).finding with
  | malformed fault | answer b => simp [test, hf, Test.settled] at ha
  | undecided s t gap =>
      obtain ⟨hs, ht⟩ := names_of_undecided hf
      by_cases hb : options.fallback = true
      · simp only [test, hf, hb, if_true] at ha
        rcases attempts_of_consult source s t gap state a ha with h | ⟨state', h⟩
        · exact ⟨s, state, .inl hs, h⟩
        · exact ⟨t, state', .inr ht, h⟩
      · simp [test, hf, hb, Test.settled] at ha

/-! ### The list of imports is true -/

section

variable {Obj : Type} (p : Process σ Obj Class) (policy : Policy)

theorem consult_watched_process (s t : String) (gap : Gap) (state : σ)
    (asked : List (Attempt σ)) :
    (consult (p.watched.source policy) s t gap (state, asked)).outcome
        = (consult (p.source policy) s t gap state).outcome ∧
      (consult (p.watched.source policy) s t gap (state, asked)).state
        = ((consult (p.source policy) s t gap state).state,
            asked ++ (consult (p.source policy) s t gap state).attempts) := by
  obtain ⟨result, after⟩ := load_watched p policy s state asked
  cases hs : (load p policy s state).result with
  | refused fault | escaped e => simp [consult, Process.source, result, after, hs]
  | found candidate =>
      obtain ⟨result', after'⟩ := load_watched p policy t (load p policy s state).state
        (asked ++ (load p policy s state).attempts)
      cases ht : (load p policy t (load p policy s state).state).result with
      | refused fault | escaped e =>
          simp [consult, compareWith, Process.source, result, after, hs, result', after', ht]
      | found base =>
          simp only [consult, compareWith, Process.source, result, after, hs, result', after', ht,
            List.append_assoc, and_true]
          rfl

/-- **The list of imports is true.**  A test with a watched process comes to the same, and the
process is asked for the imports in the list, in that order, each in the state that goes with it. -/
theorem test_watched_process (options : Options) (index : ClassIndex) (subject target : TypeRef)
    (state : σ) :
    (test options (p.watched.source policy) index subject target (state, [])).outcome
        = (test options (p.source policy) index subject target state).outcome ∧
      (test options (p.watched.source policy) index subject target (state, [])).state
        = ((test options (p.source policy) index subject target state).state,
            (test options (p.source policy) index subject target state).attempts) := by
  cases hf : (ask options.reflexive index subject target).finding with
  | malformed fault | answer b => simp [test, hf, Test.settled]
  | undecided s t gap =>
      by_cases hb : options.fallback = true
      · simpa [test, hf, hb] using consult_watched_process p policy s t gap state []
      · simp [test, hf, hb, Test.settled]

/-! ### What is imported -/

variable {p policy}

/-- Where imports are off, nothing is permitted. -/
theorem eq_nil_of_permitted (p : Process σ Obj Class) {attempts : List (Attempt σ)}
    (h : ∀ a ∈ attempts, ∃ name, Permitted p policy name a)
    (off : policy.importModules = false) : attempts = [] := by
  refine List.eq_nil_iff_forall_not_mem.2 fun a ha => ?_
  obtain ⟨name, permitted⟩ := h a ha
  rw [permitted.importing] at off
  cases off

/-- An open question about two classes that loaded modules offer is answered by comparing them. -/
theorem test_of_offers {gap : Gap} {candidate base : Class} {s₀ s₁ s₂ : σ}
    (h : (ask options.reflexive index subject target).finding = .undecided s t gap)
    (hf : options.fallback = true) (hs : Offers p policy s s₀ candidate s₁)
    (ht : Offers p policy t s₁ base s₂) :
    (test options (p.source policy) index subject target s₀).outcome
      = .answer (isAssignable p s₂ base candidate).answer := by
  obtain ⟨found, after⟩ := load_of_offers hs
  obtain ⟨found', after'⟩ := load_of_offers ht
  simp [test, h, hf, consult, compareWith, Process.source, found, after, found', after']

variable (p policy)

/-- **What is imported.**  A policy admits a module if imports are on and, where it lists any, the
path of the module starts with a listed one, component by component.  Whatever the process, the
policy and the state it starts in, loading a name asks the process to import only modules that are
packages around the name, that are not loaded when they are asked for, and that the policy admits;
so none at all if imports are off.  Where a module that is loaded comes first, the name is read off
it, whatever the policy; if imports are off, that is the loaded module with the longest path.  The
same holds of every test, for the names of its subject and its target. -/
theorem imports_permitted (s : σ) :
    (∀ module, policy.admits module = true ↔ policy.importModules = true ∧
      (policy.allowed ≠ [] → ∃ ancestor ∈ policy.allowed,
        Text.components ancestor <+: Text.components module)) ∧
    (∀ name,
      let result := load p policy name s
      let imports := (load p.watched policy name (s, [])).state.2
      (∀ a ∈ imports, Permitted p policy name a) ∧
      (policy.importModules = false → imports = []) ∧
      (∀ found s', ReadOff p policy name s found s' →
        result.result = expectClass p name found ∧ result.state = s') ∧
      (policy.importModules = false → ∀ passed front rest later m,
        "" ∉ Text.components name →
        cuts (Text.components name) = passed ++ (front, rest) :: later →
        (∀ c ∈ passed, p.loaded? s (Text.path c.1) = none) →
        p.loaded? s (Text.path front) = some m →
        result.result = expectClass p name (follow p s m rest) ∧ result.state = s)) ∧
    ∀ (options : Options) (index : ClassIndex) (subject target : TypeRef),
      let result := test options (p.source policy) index subject target s
      let imports := (test options (p.watched.source policy) index subject target (s, [])).state.2
      (∀ a ∈ imports, ∃ name,
        (subject.canonicalName = .ok name ∨ target.canonicalName = .ok name) ∧
          Permitted p policy name a) ∧
      (policy.importModules = false → imports = []) ∧
      (∀ subjectName targetName gap candidate base s₁ s₂,
        (ask options.reflexive index subject target).finding
          = .undecided subjectName targetName gap →
        options.fallback = true → Offers p policy subjectName s candidate s₁ →
        Offers p policy targetName s₁ base s₂ →
        result.outcome = .answer (isAssignable p s₂ base candidate).answer) := by
  refine ⟨fun module => Policy.admits_iff, fun name => ?_,
    fun options index subject target => ?_⟩
  · have list : (load p.watched policy name (s, [])).state.2 = (load p policy name s).attempts :=
      congrArg Prod.snd (load_watched p policy name s []).2
    have permitted := permitted_of_load p policy name s
    rw [list]
    refine ⟨permitted, eq_nil_of_permitted p fun a ha => ⟨name, permitted a ha⟩,
      fun found s' => load_of_readOff, ?_⟩
    intro off passed front rest later m complete cut unloaded loaded
    have passes := passes_of_off off unloaded
    exact load_of_readOff (.mk complete cut passes loaded)
  · have list :
        (test options (p.watched.source policy) index subject target (s, [])).state.2
          = (test options (p.source policy) index subject target s).attempts :=
      congrArg Prod.snd (test_watched_process p policy options index subject target s).2
    have permitted : ∀ a ∈ (test options (p.source policy) index subject target s).attempts,
        ∃ name, (subject.canonicalName = .ok name ∨ target.canonicalName = .ok name) ∧
          Permitted p policy name a := by
      intro a ha
      obtain ⟨name, s', named, ha⟩ := attempts_of_test (p.source policy) s a ha
      exact ⟨name, named, permitted_of_load p policy name s' a ha⟩
    rw [list]
    refine ⟨permitted, eq_nil_of_permitted p fun a ha => ?_, ?_⟩
    · obtain ⟨name, -, h⟩ := permitted a ha
      exact ⟨name, h⟩
    · intro subjectName targetName gap candidate base s₁ s₂ asked
      exact test_of_offers asked

end

end TypeCatalog.Subtype
