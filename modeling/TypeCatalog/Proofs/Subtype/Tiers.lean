import TypeCatalog.Live.Modules
import TypeCatalog.Proofs.Subtype.Chain

/-! # Subtypes — what the two tiers answer

A question about two names has one of two fates in the index.  It is *settled*: the names are the
same and every type is below itself, or the walk from the subject holds or fails.  Or it is *open*:
the subject is not indexed, or the walk leaves the index.  Live classes are asked about open
questions only, and only if they may be asked.  They are asked for the subject, then for the target
if there is a subject, and for nothing else: what the walk met on its way plays no part.

A test keeps the list of what it asked.  That the list is true is seen from outside: `watched` is a
source of live classes that writes down in its own state what it is asked to load.

* `test_of_settles`: a settled question is answered without live classes.
* `test_of_open`: an open question is answered by `consult`.
* `consult_consults`: what consulting comes to and what it asks.
* `test_watched`: a watched source is asked for the names in the list, in that order.
* `test_outcome_iff`: all of it about one test.
-/

namespace TypeCatalog

namespace Live

/-- The source with a record of the names it has been asked to load. -/
def ClassSource.watched {σ Class : Type} (source : ClassSource σ Class) :
    ClassSource (σ × List String) Class where
  load name s :=
    let l := source.load name s.1
    ⟨l.result, l.attempts.map fun a => ⟨a.module, a.before, s.2⟩, l.events,
      (l.state, s.2 ++ [name])⟩
  isAssignable s base candidate := source.isAssignable s.1 base candidate

end Live

namespace Subtype

open Live (ClassSource Escape LoadFault)

variable {σ Class : Type}

/-! ### What the index makes of a question -/

/-- The names are the same, and every type is below itself. -/
def SameName (reflexive : Bool) (s t : String) : Prop := reflexive = true ∧ s = t

/-- The index settles whether `s` is below `t`. -/
inductive Settles (reflexive : Bool) (index : ClassIndex) (s t : String) : Bool → Prop where
  | same (h : SameName reflexive s t) : Settles reflexive index s t true
  | holds {info : ClassInfo} (apart : ¬ SameName reflexive s t) (hi : index.get? s = some info)
      (h : (walk index info t).ending.verdict? = .ok .holds) : Settles reflexive index s t true
  | fails {info : ClassInfo} (apart : ¬ SameName reflexive s t) (hi : index.get? s = some info)
      (h : (walk index info t).ending.verdict? = .ok .fails) : Settles reflexive index s t false

/-- The index leaves open whether `s` is below `t`, for lack of the subject or of a superclass. -/
inductive Open (reflexive : Bool) (index : ClassIndex) (s t : String) : Gap → Prop where
  | subject (apart : ¬ SameName reflexive s t) (hi : index.get? s = none) :
      Open reflexive index s t .subject
  | superclass {info : ClassInfo} (apart : ¬ SameName reflexive s t)
      (hi : index.get? s = some info)
      (h : (walk index info t).ending.verdict? = .ok .undecided) :
      Open reflexive index s t .superclass

section

variable {reflexive : Bool} {index : ClassIndex} {s t : String}

/-- The inquiry about two names that are not taken to be the same. -/
theorem askNames_of_apart (apart : ¬ SameName reflexive s t) :
    askNames reflexive index s t =
      match index.get? s with
      | none   => ⟨[s], [], .undecided s t .subject⟩
      | some c =>
          let w := walk index c t
          ⟨s :: w.lookups, w.ending.events c.name, w.ending.finding s t⟩ := by
  have hb : ¬ (reflexive && s == t) = true := by simpa [SameName] using apart
  exact if_neg hb

/-- The finding about an indexed subject is that of the walk from it. -/
theorem finding_of_indexed {info : ClassInfo} (apart : ¬ SameName reflexive s t)
    (hi : index.get? s = some info) :
    (askNames reflexive index s t).finding = (walk index info t).ending.finding s t := by
  rw [askNames_of_apart apart, hi]

theorem Ending.finding_of_verdict {e : Ending} {v : Verdict} (h : e.verdict? = .ok v) :
    e.finding s t =
      match v with
      | .holds     => .answer true
      | .fails     => .answer false
      | .undecided => .undecided s t .superclass := by
  cases e with
  | found | top | cycle | outside =>
      obtain rfl := Except.ok.inj h
      rfl
  | malformed fault => cases h

theorem finding_of_settles {b : Bool} (h : Settles reflexive index s t b) :
    (askNames reflexive index s t).finding = .answer b := by
  cases h with
  | same h =>
      have hb : (reflexive && s == t) = true := by simpa [SameName] using h
      rw [askNames, if_pos hb]
  | holds apart hi h => rw [finding_of_indexed apart hi, Ending.finding_of_verdict h]
  | fails apart hi h => rw [finding_of_indexed apart hi, Ending.finding_of_verdict h]

theorem finding_of_open {gap : Gap} (h : Open reflexive index s t gap) :
    (askNames reflexive index s t).finding = .undecided s t gap := by
  cases h with
  | subject apart hi => rw [askNames_of_apart apart, hi]
  | superclass apart hi h => rw [finding_of_indexed apart hi, Ending.finding_of_verdict h]

/-- A question is not settled both ways, nor settled and open. -/
theorem Settles.not_open {b : Bool} {gap : Gap} (h : Settles reflexive index s t b) :
    ¬ Open reflexive index s t gap := by
  intro h'
  have hf := (finding_of_settles h).symm.trans (finding_of_open h')
  cases hf

/-- Where superclasses have names, every walk has a verdict. -/
theorem exists_verdict {info : ClassInfo} (named : ∀ info ∈ index.classes, ∀ r,
    info.superclass = some r → ∃ n, r.canonicalName = .ok n) (hi : info ∈ index.classes)
    (t : String) : ∃ v, (walk index info t).ending.verdict? = .ok v := by
  have climbs : ∀ (met : List String) (above : Option TypeRef),
      (∀ r, above = some r → ∃ n, r.canonicalName = .ok n) →
      ∃ v, (climb index t met above).ending.verdict? = .ok v := by
    intro met above ha
    fun_induction climb index t met above with
    | case1 met => exact ⟨.fails, rfl⟩
    | case2 met r fault hr =>
        obtain ⟨n, hn⟩ := ha r rfl
        rw [hr] at hn
        cases hn
    | case3 met r hr => exact ⟨.holds, rfl⟩
    | case4 met r n hr hn hm => exact ⟨.fails, rfl⟩
    | case5 met r n hr hn hm hi' => exact ⟨.undecided, rfl⟩
    | case6 met r n hr hn hm info' hi' rest ih => exact ih (named info' (mem_classes_of_get? hi'))
  unfold walk
  split
  · exact ⟨.holds, rfl⟩
  · exact climbs _ _ (named info hi)

/-- **A question is settled or open.** -/
theorem settles_or_open (named : ∀ info ∈ index.classes, ∀ r, info.superclass = some r →
    ∃ n, r.canonicalName = .ok n) (reflexive : Bool) (s t : String) :
    (∃ b, Settles reflexive index s t b) ∨ ∃ gap, Open reflexive index s t gap := by
  by_cases same : SameName reflexive s t
  · exact .inl ⟨true, .same same⟩
  · cases hi : index.get? s with
    | none => exact .inr ⟨.subject, .subject same hi⟩
    | some info =>
        obtain ⟨v, hv⟩ := exists_verdict named (mem_classes_of_get? hi) t
        cases v with
        | holds => exact .inl ⟨true, .holds same hi hv⟩
        | fails => exact .inl ⟨false, .fails same hi hv⟩
        | undecided => exact .inr ⟨.superclass, .superclass same hi hv⟩

end

/-! ### What live classes make of a question -/

/-- The name that a query asks to load. -/
def Query.name? : Query Class → Option String
  | .load name        => some name
  | .isAssignable _ _ => none

/-- The names that a list of queries asks to load. -/
def names (queries : List (Query Class)) : List String := queries.filterMap Query.name?

/-- Both classes load, the subject's first, and the target's says whether it is above it. -/
structure Compares (source : ClassSource σ Class) (s t : String) (state : σ)
    (candidate base : Class) (b : Bool) : Prop where
  subject : (source.load s state).result = .found candidate
  target : (source.load t (source.load s state).state).result = .found base
  answer : (source.isAssignable (source.load t (source.load s state).state).state base
    candidate).answer = b

/-- There is no class for the subject, or one for the subject and none for the target. -/
inductive Unloadable (source : ClassSource σ Class) (s t : String) (state : σ) : Prop where
  | subject {fault : LoadFault} (hs : (source.load s state).result = .refused fault)
  | target {candidate : Class} {fault : LoadFault}
      (hs : (source.load s state).result = .found candidate)
      (ht : (source.load t (source.load s state).state).result = .refused fault)

/-- Consulting live classes about `s` and `t` comes to an outcome after some queries. -/
inductive Consults (source : ClassSource σ Class) (s t : String) (state : σ) :
    Outcome → List (Query Class) → Prop where
  | compared {candidate base : Class} {b : Bool}
      (h : Compares source s t state candidate base b) :
      Consults source s t state (.answer b) [.load s, .load t, .isAssignable base candidate]
  | noSubject {fault : LoadFault} (hs : (source.load s state).result = .refused fault) :
      Consults source s t state (.answer false) [.load s]
  | noTarget {candidate : Class} {fault : LoadFault}
      (hs : (source.load s state).result = .found candidate)
      (ht : (source.load t (source.load s state).state).result = .refused fault) :
      Consults source s t state (.answer false) [.load s, .load t]
  | subjectEscapes {e : Escape} (hs : (source.load s state).result = .escaped e) :
      Consults source s t state (.escaped e) [.load s]
  | targetEscapes {candidate : Class} {e : Escape}
      (hs : (source.load s state).result = .found candidate)
      (ht : (source.load t (source.load s state).state).result = .escaped e) :
      Consults source s t state (.escaped e) [.load s, .load t]

/-- **Consulting.** -/
theorem consult_consults (source : ClassSource σ Class) (s t : String) (gap : Gap) (state : σ) :
    Consults source s t state (consult source s t gap state).outcome
      (consult source s t gap state).queries := by
  cases hs : (source.load s state).result with
  | refused fault =>
      simp only [consult, hs]
      exact .noSubject hs
  | escaped e =>
      simp only [consult, hs]
      exact .subjectEscapes hs
  | found candidate =>
      cases ht : (source.load t (source.load s state).state).result with
      | found base =>
          simp only [consult, compareWith, hs, ht]
          exact .compared ⟨hs, ht, rfl⟩
      | refused fault =>
          simp only [consult, compareWith, hs, ht]
          exact .noTarget hs ht
      | escaped e =>
          simp only [consult, compareWith, hs, ht]
          exact .targetEscapes hs ht

section

variable {source : ClassSource σ Class} {s t : String} {state : σ} {o : Outcome}
  {queries : List (Query Class)}

/-- Where both classes load, consulting comes to what the target's says. -/
theorem Consults.eq_of_compares {candidate base : Class} {b : Bool}
    (h : Consults source s t state o queries) (hc : Compares source s t state candidate base b) :
    o = .answer b := by
  cases h with
  | compared h =>
      obtain rfl := Live.Loaded.found.inj (h.subject.symm.trans hc.subject)
      obtain rfl := Live.Loaded.found.inj (h.target.symm.trans hc.target)
      rw [← h.answer, ← hc.answer]
  | noSubject hs | subjectEscapes hs => cases hs.symm.trans hc.subject
  | noTarget hs ht | targetEscapes hs ht => cases ht.symm.trans hc.target

/-- Where a class is missing, consulting comes to no. -/
theorem Consults.eq_of_unloadable (h : Consults source s t state o queries)
    (hu : Unloadable source s t state) : o = .answer false := by
  cases h with
  | compared h =>
      cases hu with
      | subject hs => cases hs.symm.trans h.subject
      | target hs ht => cases ht.symm.trans h.target
  | noSubject hs => rfl
  | noTarget hs ht => rfl
  | subjectEscapes hs =>
      cases hu with
      | subject hs' => cases hs.symm.trans hs'
      | target hs' ht' => cases hs.symm.trans hs'
  | targetEscapes hs ht =>
      cases hu with
      | subject hs' => cases hs.symm.trans hs'
      | target hs' ht' => cases ht.symm.trans ht'

/-- The answer is yes exactly where both classes load and the target's says so. -/
theorem Consults.true_iff (h : Consults source s t state o queries) :
    o = .answer true ↔ ∃ candidate base, Compares source s t state candidate base true := by
  refine ⟨?_, fun ⟨_, _, hc⟩ => h.eq_of_compares hc⟩
  rintro rfl
  cases h with
  | compared h => exact ⟨_, _, h⟩

/-- The answer is no exactly where a class is missing or the target's says so. -/
theorem Consults.false_iff (h : Consults source s t state o queries) :
    o = .answer false ↔
      Unloadable source s t state ∨
        ∃ candidate base, Compares source s t state candidate base false := by
  constructor
  · rintro rfl
    cases h with
    | compared h => exact .inr ⟨_, _, h⟩
    | noSubject hs => exact .inl (.subject hs)
    | noTarget hs ht => exact .inl (.target hs ht)
  · rintro (hu | ⟨_, _, hc⟩)
    · exact h.eq_of_unloadable hu
    · exact h.eq_of_compares hc

/-- The subject is asked for, and the target if there is a class for the subject. -/
theorem Consults.names_eq (h : Consults source s t state o queries) :
    ((∃ candidate, (source.load s state).result = .found candidate) → names queries = [s, t]) ∧
      ((¬ ∃ candidate, (source.load s state).result = .found candidate) →
        names queries = [s]) := by
  cases h with
  | compared h => exact ⟨fun _ => rfl, fun hn => absurd ⟨_, h.subject⟩ hn⟩
  | noTarget hs ht | targetEscapes hs ht => exact ⟨fun _ => rfl, fun hn => absurd ⟨_, hs⟩ hn⟩
  | noSubject hs | subjectEscapes hs =>
      refine ⟨?_, fun _ => rfl⟩
      rintro ⟨candidate, hc⟩
      cases hs.symm.trans hc

end

/-! ### Both tiers -/

section

variable {options : Options} {index : ClassIndex} {subject target : TypeRef} {s t : String}

theorem ask_of_names (hs : subject.canonicalName = .ok s) (ht : target.canonicalName = .ok t) :
    ask options.reflexive index subject target = askNames options.reflexive index s t := by
  rw [ask, hs, ht]

/-- A settled question is answered without live classes. -/
theorem test_of_settles (source : ClassSource σ Class) (state : σ)
    (hs : subject.canonicalName = .ok s) (ht : target.canonicalName = .ok t) {b : Bool}
    (h : Settles options.reflexive index s t b) :
    test options source index subject target state
      = .settled (askNames options.reflexive index s t) (.answer b) state := by
  simp only [test, ask_of_names hs ht, finding_of_settles h]

/-- Where live classes may not be asked, the answer to an open question is no. -/
theorem test_of_open_of_not_fallback (source : ClassSource σ Class) (state : σ)
    (hs : subject.canonicalName = .ok s) (ht : target.canonicalName = .ok t) {gap : Gap}
    (h : Open options.reflexive index s t gap) (hf : options.fallback = false) :
    test options source index subject target state
      = .settled (askNames options.reflexive index s t) (.answer false) state := by
  simp [test, ask_of_names hs ht, finding_of_open h, hf]

/-- Where they may be asked, an open question is answered by consulting them. -/
theorem test_of_open (source : ClassSource σ Class) (state : σ)
    (hs : subject.canonicalName = .ok s) (ht : target.canonicalName = .ok t) {gap : Gap}
    (h : Open options.reflexive index s t gap) (hf : options.fallback = true) :
    Consults source s t state (test options source index subject target state).outcome
      (test options source index subject target state).queries := by
  have hc := consult_consults source s t gap state
  simpa [test, ask_of_names hs ht, finding_of_open h, hf] using hc

/-! ### The list of queries is true -/

/-- Watching changes nothing, and a watched source is asked for the names in the list. -/
theorem consult_watched (source : ClassSource σ Class) (s t : String) (gap : Gap) (state : σ)
    (asked : List String) :
    (consult source.watched s t gap (state, asked)).outcome
        = (consult source s t gap state).outcome ∧
      (consult source.watched s t gap (state, asked)).state
        = ((consult source s t gap state).state,
            asked ++ names (consult source s t gap state).queries) := by
  cases hs : (source.load s state).result with
  | refused fault => simp [consult, ClassSource.watched, hs, names, Query.name?]
  | escaped e => simp [consult, ClassSource.watched, hs, names, Query.name?]
  | found candidate =>
      cases ht : (source.load t (source.load s state).state).result with
      | found base =>
          simp [consult, compareWith, ClassSource.watched, hs, ht, names, Query.name?]
      | refused fault =>
          simp [consult, compareWith, ClassSource.watched, hs, ht, names, Query.name?]
      | escaped e =>
          simp [consult, compareWith, ClassSource.watched, hs, ht, names, Query.name?]

/-- **The list of queries is true.**  A test of a watched source comes to the same, and the source
is asked for the names in the list, in that order. -/
theorem test_watched (options : Options) (source : ClassSource σ Class) (index : ClassIndex)
    (subject target : TypeRef) (state : σ) :
    (test options source.watched index subject target (state, [])).outcome
        = (test options source index subject target state).outcome ∧
      (test options source.watched index subject target (state, [])).state
        = ((test options source index subject target state).state,
            names (test options source index subject target state).queries) := by
  cases hf : (ask options.reflexive index subject target).finding with
  | malformed fault => simp [test, hf, Test.settled, names]
  | answer b => simp [test, hf, Test.settled, names]
  | undecided s t gap =>
      by_cases hb : options.fallback = true
      · simpa [test, hf, hb] using consult_watched source s t gap state []
      · simp [test, hf, hb, Test.settled, names]

/-! ### A test -/

/-- Where live classes are not needed or may not be asked, a test says what the index says, whatever
the source, and leaves the source alone. -/
theorem test_of_untouched (hs : subject.canonicalName = .ok s) (ht : target.canonicalName = .ok t)
    (h : (∃ b, Settles options.reflexive index s t b) ∨
      options.fallback = false ∧ ∃ gap, Open options.reflexive index s t gap) :
    ∃ b, ∀ {σ Class : Type} (source : ClassSource σ Class) (state : σ),
      test options source index subject target state
        = .settled (askNames options.reflexive index s t) (.answer b) state := by
  rcases h with ⟨b, h⟩ | ⟨hf, gap, h⟩
  · exact ⟨b, fun source state => test_of_settles source state hs ht h⟩
  · exact ⟨false, fun source state => test_of_open_of_not_fallback source state hs ht h hf⟩

/-- **A test.**  In an index whose superclasses have names, a question about two types that have
names is settled or open.  The answer to a settled one is what the index says.  The answer to an
open one is no if live classes may not be asked; else it is yes where both classes load and the
target's says that it is above the subject's, and no where it denies that or a class is missing.
Only then is a class asked for: the subject's, and the target's if there is one for the subject.
In all other cases any two sources lead to the same answer. -/
theorem test_outcome_iff (options : Options) (source : ClassSource σ Class) (index : ClassIndex)
    (state : σ) (hs : subject.canonicalName = .ok s) (ht : target.canonicalName = .ok t)
    (named : ∀ info ∈ index.classes, ∀ r, info.superclass = some r →
      ∃ n, r.canonicalName = .ok n) :
    let result := test options source index subject target state
    let asked := (test options source.watched index subject target (state, [])).state.2
    let settled := ∃ b, Settles options.reflexive index s t b
    let isOpen := ∃ gap, Open options.reflexive index s t gap
    (settled ∨ isOpen) ∧ ¬ (settled ∧ isOpen) ∧
    (∀ b, Settles options.reflexive index s t b → result.outcome = .answer b) ∧
    (isOpen → options.fallback = false → result.outcome = .answer false) ∧
    (isOpen → options.fallback = true →
      (result.outcome = .answer true ↔
        ∃ candidate base, Compares source s t state candidate base true) ∧
      (result.outcome = .answer false ↔
        Unloadable source s t state ∨
          ∃ candidate base, Compares source s t state candidate base false) ∧
      ((∃ candidate, (source.load s state).result = .found candidate) → asked = [s, t]) ∧
      ((¬ ∃ candidate, (source.load s state).result = .found candidate) → asked = [s])) ∧
    (settled ∨ options.fallback = false →
      result.queries = [] ∧ result.state = state ∧ asked = [] ∧
        ∀ {σ' Class' : Type} (source' : ClassSource σ' Class') (state' : σ'),
          (test options source' index subject target state').outcome = result.outcome) := by
  intro result asked settled isOpen
  have decided : settled ∨ isOpen := settles_or_open named options.reflexive s t
  have asked_eq : asked = names result.queries :=
    congrArg Prod.snd (test_watched options source index subject target state).2
  refine ⟨decided, ?_, ?_, ?_, ?_, ?_⟩
  · rintro ⟨⟨b, hb⟩, gap, hg⟩
    exact hb.not_open hg
  · intro b hb
    exact congrArg Test.outcome (test_of_settles source state hs ht hb)
  · rintro ⟨gap, hg⟩ hf
    exact congrArg Test.outcome (test_of_open_of_not_fallback source state hs ht hg hf)
  · rintro ⟨gap, hg⟩ hf
    have hc := test_of_open source state hs ht hg hf
    rw [asked_eq]
    exact ⟨hc.true_iff, hc.false_iff, hc.names_eq⟩
  · intro h
    have still : settled ∨ options.fallback = false ∧ isOpen := by
      rcases decided with hd | hd
      · exact .inl hd
      · exact h.imp_right fun hf => ⟨hf, hd⟩
    obtain ⟨b, hb⟩ := test_of_untouched hs ht still
    have hr : result = .settled (askNames options.reflexive index s t) (.answer b) state :=
      hb source state
    rw [asked_eq, hr]
    exact ⟨rfl, rfl, rfl, fun source' state' => congrArg Test.outcome (hb source' state')⟩

/-- A class whose superclass is not indexed. -/
def orderedDict : ClassInfo :=
  ⟨"collections.OrderedDict", some (.ofClass "builtins.dict"), [], [], [], []⟩

/-- The standard classes, any of which may be loaded. -/
def standardSource : ClassSource Live.Imported Live.ClassId :=
  (Live.Setting.process ⟨.empty, .empty⟩).source .free

theorem load_orderedDict : standardSource.load "collections.OrderedDict" [] =
    ⟨.found (.standard "collections.OrderedDict"), [], [], []⟩ := rfl

theorem load_mapping : standardSource.load "collections.abc.Mapping" [] =
    ⟨.found (.standard "collections.abc.Mapping"), [], [], []⟩ := rfl

theorem isAssignable_orderedDict : (standardSource.isAssignable []
    (.standard "collections.abc.Mapping") (.standard "collections.OrderedDict")).answer = true := by
  decide +kernel

theorem compares_orderedDict : Compares standardSource "collections.OrderedDict"
    "collections.abc.Mapping" [] (.standard "collections.OrderedDict")
    (.standard "collections.abc.Mapping") true where
  subject := by rw [load_orderedDict]
  target := by rw [load_orderedDict, load_mapping]
  answer := by rw [load_orderedDict, load_mapping, isAssignable_orderedDict]

/-- The walk leaves the index at `builtins.dict`; live classes are asked about the subject it
started from. -/
theorem test_outcome_orderedDict :
    let index := ClassIndex.ofClasses [orderedDict]
    let subject := TypeRef.ofClass "collections.OrderedDict"
    let target := TypeRef.ofClass "collections.abc.Mapping"
    subject.canonicalName = .ok "collections.OrderedDict" ∧
    target.canonicalName = .ok "collections.abc.Mapping" ∧
    (∀ info ∈ index.classes, ∀ r, info.superclass = some r → ∃ n, r.canonicalName = .ok n) ∧
    (test .standard standardSource index subject target []).outcome = .answer true ∧
    (test .standard standardSource.watched index subject target ([], [])).state.2
      = ["collections.OrderedDict", "collections.abc.Mapping"] := by
  intro index subject target
  have named : ∀ info ∈ index.classes, ∀ r, info.superclass = some r →
      ∃ n, r.canonicalName = .ok n := by
    have hc : index.classes = [orderedDict] := rfl
    simp [hc, orderedDict, TypeRef.ofClass, TypeRef.canonicalName]
  have hw : (walk index orderedDict "collections.abc.Mapping").ending.verdict?
      = .ok .undecided := by
    rw [walk, if_neg (by decide), climb.eq_def]
    rfl
  have leaves : Open false index "collections.OrderedDict" "collections.abc.Mapping"
      .superclass := .superclass (by simp [SameName]) rfl hw
  have hs : subject.canonicalName = .ok "collections.OrderedDict" := rfl
  have ht : target.canonicalName = .ok "collections.abc.Mapping" := rfl
  obtain ⟨-, -, -, -, consulted, -⟩ :=
    test_outcome_iff .standard standardSource index [] hs ht named
  obtain ⟨yes, -, both, -⟩ := consulted ⟨_, leaves⟩ rfl
  exact ⟨hs, ht, named, yes.2 ⟨_, _, compares_orderedDict⟩, both ⟨_, compares_orderedDict.subject⟩⟩

end

end Subtype

end TypeCatalog
